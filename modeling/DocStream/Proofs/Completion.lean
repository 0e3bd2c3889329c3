import DocStream.Proofs.Balance

/-! Streams that can still be completed. Every event of a stream finds its place exactly when some
continuation balances the stream, for the containers it leaves open can be closed in turn. -/

namespace DocStream

namespace Event

def closer : Event → Event
  | opening c => closing c
  | e => e

theorem closes_closer {o : Event} (h : o.isOpening = true) : o.closer.closes o = true := by
  cases o with
  | opening c => simp [closer, closes]
  | closing c => cases h
  | text s => cases h
  | lineBreak => cases h

theorem eq_closer_of_closes {e o : Event} (h : e.closes o = true) : e = o.closer := by
  obtain ⟨c, rfl, rfl⟩ := closes_iff.1 h
  rfl

end Event

namespace Forest

def Completable (es : List Event) : Prop := ∃ rest, Balanced (es ++ rest)

/-- All that was opened after the event is closed again, the event itself is not. -/
def InnermostOpen (es : List Event) (o : Event) : Prop :=
  ∃ before body, es = before ++ o :: body ∧ o.isOpening = true ∧ Balanced body

/-! ### Completing a stream -/

theorem completable_nil : Completable [] := ⟨[], [], trivial, rfl⟩

theorem Completable.of_append {es more : List Event} (h : Completable (es ++ more)) :
    Completable es := by
  obtain ⟨rest, hrest⟩ := h
  exact ⟨more ++ rest, by rwa [← List.append_assoc]⟩

theorem balanced_iff_advance {es : List Event} :
    Balanced es ↔ ∃ s, advance {} 0 es = .ok s ∧ s.frames = [] := by
  rw [balanced_iff_ofEvents]
  simp only [ofEvents_eq_ok_iff_advance]
  constructor
  · rintro ⟨ts, s, hs, hframes, -⟩
    exact ⟨s, hs, hframes⟩
  · rintro ⟨s, hs, hframes⟩
    exact ⟨_, s, hs, hframes, rfl⟩

theorem advance_closers {frames : List Frame} (hframes : ∀ f ∈ frames, f.Sound)
    (level : List Tree) (p : Nat) :
    ∃ s, advance ⟨frames, level⟩ p (frames.map fun f => f.opener.closer) = .ok s ∧
      s.frames = [] := by
  induction frames generalizing level p with
  | nil => exact ⟨_, rfl, rfl⟩
  | cons f frames ih =>
    obtain ⟨hf, hrest⟩ := List.forall_mem_cons.1 hframes
    rw [List.map_cons, advance, step_closing (Event.closes_closer hf.opener)]
    exact ih hrest _ (p + 1)

theorem completable_iff_advance {es : List Event} :
    Completable es ↔ ∃ s, advance {} 0 es = .ok s := by
  constructor
  · rintro ⟨rest, hrest⟩
    obtain ⟨t, ht, -⟩ := balanced_iff_advance.1 hrest
    cases hes : advance {} 0 es with
    | ok s => exact ⟨s, rfl⟩
    | error err =>
      rw [advance_append_of_error hes] at ht
      cases ht
  · rintro ⟨s, hs⟩
    -- What is still open is closed in turn, innermost first.
    obtain ⟨t, ht, hframes⟩ := advance_closers (sound_of_advance hs).frames s.level (0 + es.length)
    refine ⟨s.frames.map fun f => f.opener.closer, balanced_iff_advance.2 ⟨t, ?_, hframes⟩⟩
    rw [advance_append_of_ok hs]
    exact ht

/-! ### What is open after a part of a stream -/

theorem balanced_iff_frames {es : List Event} {s : Progress} (h : advance {} 0 es = .ok s) :
    Balanced es ↔ s.frames = [] := by
  rw [balanced_iff_advance, h]
  simp

theorem exists_advance_opening {es body : List Event} {o : Event} {s : Progress}
    (h : advance {} 0 es = .ok s) (ho : o.isOpening = true) (hbody : Balanced body) :
    ∃ level, advance {} 0 (es ++ o :: body) = .ok ⟨⟨o, s.level⟩ :: s.frames, level⟩ := by
  obtain ⟨ts, hts, rfl⟩ := hbody
  rw [advance_append_of_ok h, advance, step_opening s _ ho]
  exact ⟨_, advance_flattenAll _ _ ts hts⟩

theorem innermostOpen_iff_frames {es : List Event} {s : Progress} {o : Event}
    (h : advance {} 0 es = .ok s) :
    InnermostOpen es o ↔ ∃ f frames, s.frames = f :: frames ∧ f.opener = o := by
  constructor
  · rintro ⟨before, body, rfl, ho, hbody⟩
    cases hbefore : advance {} 0 before with
    | error err =>
      rw [advance_append_of_error hbefore] at h
      cases h
    | ok t =>
      obtain ⟨level, hopen⟩ := exists_advance_opening hbefore ho hbody
      rw [hopen] at h
      cases h
      exact ⟨_, _, rfl, rfl⟩
  · rintro ⟨f, frames, hframes, rfl⟩
    have hs : s.Sound := sound_of_advance h
    have hf : f.Sound := hs.frames f (by simp [hframes])
    have hlevel : Tree.AllWellFormed s.level.reverse := (Tree.allWellFormed_reverse _).2 hs.level
    refine ⟨framesTrail frames ++ Tree.flattenAll f.before.reverse, Tree.flattenAll s.level.reverse,
      ?_, hf.opener, _, hlevel, rfl⟩
    rw [← trail_of_advance h, Progress.trail, hframes, framesTrail]
    simp

end Forest

end DocStream

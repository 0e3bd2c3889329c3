import DocStream.Proofs.Completion
import Mathlib.Data.Nat.Find
import Mathlib.Order.Bounds.Defs

/-! Where a stream is refused. The position that a failure names is that of the first event no
continuation makes up for, and what is open just before it decides which failure it is. -/

namespace DocStream

namespace BalanceError

def position? : BalanceError → Option Nat
  | unexpectedEnd p _ => some p
  | mismatched p _ _ => some p
  | unclosed _ => none

end BalanceError

namespace Forest

/-- No continuation makes up for the event at the position, and for each one before it some does. -/
def FirstHopeless (es : List Event) (p : Nat) : Prop :=
  IsLeast {q | ¬Completable (es.take (q + 1))} p

structure FailsAt (es : List Event) (p : Nat) (s : Progress) (e : Event) (err : BalanceError) :
    Prop where
  event : es[p]? = some e
  read : advance {} 0 (es.take p) = .ok s
  step : s.step p e = .error err

variable {es : List Event} {p : Nat} {s : Progress} {e : Event} {err : BalanceError}

theorem advance_take_succ (h : es[p]? = some e) :
    advance {} 0 (es.take (p + 1)) =
      (advance {} 0 (es.take p)).bind fun s => s.step p e := by
  have hlen : (es.take p).length = p :=
    List.length_take_of_le (Nat.le_of_lt (List.getElem?_eq_some_iff.1 h).1)
  rw [List.take_add_one, h, Option.toList_some, advance_append, hlen, Nat.zero_add]
  congr 1
  funext s
  rw [advance]
  cases s.step p e <;> rfl

theorem FailsAt.advance_take (h : FailsAt es p s e err) :
    advance {} 0 (es.take (p + 1)) = .error err := by
  rw [advance_take_succ h.event, h.read]
  exact h.step

theorem FailsAt.advance (h : FailsAt es p s e err) : Forest.advance {} 0 es = .error err := by
  rw [← List.take_append_drop (p + 1) es]
  exact advance_append_of_error h.advance_take _

theorem FailsAt.position (h : FailsAt es p s e err) : err.position? = some p := by
  cases step_of_eq h.step with
  | unexpectedEnd hc => rfl
  | mismatched hc he => rfl

/-! ### The first hopeless event -/

theorem FailsAt.firstHopeless (h : FailsAt es p s e err) : FirstHopeless es p := by
  refine ⟨fun hdone => ?_, fun q hq => ?_⟩
  · obtain ⟨t, ht⟩ := completable_iff_advance.1 hdone
    rw [h.advance_take] at ht
    cases ht
  · by_contra hqp
    have hread : Completable (es.take p) := completable_iff_advance.2 ⟨s, h.read⟩
    obtain ⟨more, hmore⟩ : es.take (q + 1) <+: es.take p := List.take_prefix_take_left (by omega)
    rw [← hmore] at hread
    exact hq hread.of_append

theorem FirstHopeless.completable_take (h : FirstHopeless es p) : Completable (es.take p) := by
  cases p with
  | zero => exact completable_nil
  | succ q =>
    by_contra hq
    have : q + 1 ≤ q := h.2 hq
    omega

theorem FirstHopeless.lt_length (h : FirstHopeless es p) : p < es.length := by
  by_contra hp
  have hshort : es.length ≤ p := Nat.not_lt.1 hp
  -- Behind the end of the stream nothing is read any more.
  refine h.1 ?_
  rw [List.take_of_length_le (by omega), ← List.take_of_length_le hshort]
  exact h.completable_take

theorem FirstHopeless.exists_failsAt (h : FirstHopeless es p) :
    ∃ s e err, FailsAt es p s e err := by
  have hlt : p < es.length := h.lt_length
  have hevent : es[p]? = some es[p] := List.getElem?_eq_getElem hlt
  obtain ⟨s, hs⟩ := completable_iff_advance.1 h.completable_take
  cases hstep : s.step p es[p] with
  | error err => exact ⟨s, es[p], err, hevent, hs, hstep⟩
  | ok t =>
    refine absurd (completable_iff_advance.2 ⟨t, ?_⟩) h.1
    rw [advance_take_succ hevent, hs]
    exact hstep

theorem exists_firstHopeless (h : ¬Completable es) : ∃ p, FirstHopeless es p := by
  classical
  have hex : ∃ q, ¬Completable (es.take (q + 1)) :=
    ⟨es.length, by rwa [List.take_of_length_le (Nat.le_succ _)]⟩
  exact ⟨Nat.find hex, Nat.find_spec hex, fun q hq => Nat.find_min' hex hq⟩

/-! ### Failures with a position -/

theorem ofEvents_eq_error_iff_advance (hp : err.position? = some p) :
    ofEvents es = .error err ↔ Forest.advance {} 0 es = .error err := by
  cases h : Forest.advance {} 0 es with
  | error err' => simp [ofEvents_of_advance_error h]
  | ok s =>
    -- A stream that can be read through is at most unclosed, which is no matter of a position.
    have hfinish : s.finish ≠ .error err := by
      intro hs
      obtain ⟨-, rfl⟩ := finish_eq_error_iff.1 hs
      cases hp
    simp [ofEvents_of_advance h, hfinish]

theorem ofEvents_fails_iff :
    ofEvents es = .error err ∧ err.position? = some p ↔ ∃ s e, FailsAt es p s e err := by
  constructor
  · rintro ⟨h, hp⟩
    rw [ofEvents_eq_error_iff_advance hp] at h
    have hnot : ¬Completable es := by
      rw [completable_iff_advance, h]
      simp
    -- The first hopeless event fails too, and a stream fails in one way only.
    obtain ⟨q, hq⟩ := exists_firstHopeless hnot
    obtain ⟨s, e, err', hfail⟩ := hq.exists_failsAt
    obtain rfl : err' = err := Except.error.inj (hfail.advance.symm.trans h)
    obtain rfl : q = p := Option.some.inj (hfail.position.symm.trans hp)
    exact ⟨s, e, hfail⟩
  · rintro ⟨s, e, h⟩
    exact ⟨(ofEvents_eq_error_iff_advance h.position).2 h.advance, h.position⟩

theorem FailsAt.ofEvents (h : FailsAt es p s e err) : Forest.ofEvents es = .error err :=
  (ofEvents_fails_iff.2 ⟨s, e, h⟩).1

theorem exists_ofEvents_fails_iff :
    (∃ err, ofEvents es = .error err ∧ err.position? = some p) ↔ FirstHopeless es p := by
  simp only [ofEvents_fails_iff]
  constructor
  · rintro ⟨err, s, e, h⟩
    exact h.firstHopeless
  · intro h
    obtain ⟨s, e, err, hfail⟩ := h.exists_failsAt
    exact ⟨err, s, e, hfail⟩

theorem ofEvents_eq_unexpectedEnd_iff :
    ofEvents es = .error (.unexpectedEnd p e) ↔
      FirstHopeless es p ∧ es[p]? = some e ∧ Balanced (es.take p) := by
  constructor
  · intro h
    obtain ⟨s, f, hfail⟩ := ofEvents_fails_iff.1 ⟨h, rfl⟩
    cases step_of_eq hfail.step with
    | unexpectedEnd hc =>
      exact ⟨hfail.firstHopeless, hfail.event, (balanced_iff_frames hfail.read).2 rfl⟩
  · rintro ⟨hfirst, he, hbal⟩
    obtain ⟨s, f, err, hfail⟩ := hfirst.exists_failsAt
    obtain rfl : f = e := Option.some.inj (hfail.event.symm.trans he)
    have hframes : s.frames = [] := (balanced_iff_frames hfail.read).1 hbal
    cases step_of_eq hfail.step with
    | unexpectedEnd hc => exact hfail.ofEvents
    | mismatched hc hf => cases hframes

theorem ofEvents_eq_mismatched_iff {o : Event} :
    ofEvents es = .error (.mismatched p o e) ↔
      FirstHopeless es p ∧ es[p]? = some e ∧ InnermostOpen (es.take p) o := by
  constructor
  · intro h
    obtain ⟨s, f, hfail⟩ := ofEvents_fails_iff.1 ⟨h, rfl⟩
    cases step_of_eq hfail.step with
    | mismatched hc hf =>
      exact ⟨hfail.firstHopeless, hfail.event,
        (innermostOpen_iff_frames hfail.read).2 ⟨_, _, rfl, rfl⟩⟩
  · rintro ⟨hfirst, he, hopen⟩
    obtain ⟨s, f, err, hfail⟩ := hfirst.exists_failsAt
    obtain rfl : f = e := Option.some.inj (hfail.event.symm.trans he)
    obtain ⟨g, frames, hframes, rfl⟩ := (innermostOpen_iff_frames hfail.read).1 hopen
    cases step_of_eq hfail.step with
    | unexpectedEnd hc => cases hframes
    | mismatched hc hf =>
      cases hframes
      exact hfail.ofEvents

theorem InnermostOpen.not_balanced {o : Event} (hopen : InnermostOpen es o) : ¬Balanced es := by
  intro hbal
  obtain ⟨s, hs, hframes⟩ := balanced_iff_advance.1 hbal
  obtain ⟨f, frames, hcons, -⟩ := (innermostOpen_iff_frames hs).1 hopen
  rw [hframes] at hcons
  cases hcons

theorem ofEvents_append_of_fails (h : ofEvents es = .error err) (hp : err.position? = some p)
    (more : List Event) : ofEvents (es ++ more) = .error err := by
  rw [ofEvents_eq_error_iff_advance hp] at h ⊢
  exact advance_append_of_error h more

theorem ofEvents_ok_or_unclosed_iff :
    ((∃ ts, ofEvents es = .ok ts) ∨ ∃ n, ofEvents es = .error (.unclosed n)) ↔
      Completable es := by
  constructor
  · intro h
    by_contra hnot
    obtain ⟨p, hp⟩ := exists_firstHopeless hnot
    obtain ⟨err, herr, hpos⟩ := exists_ofEvents_fails_iff.2 hp
    obtain ⟨ts, h⟩ | ⟨n, h⟩ := h
    · rw [h] at herr
      cases herr
    · rw [h] at herr
      cases herr
      cases hpos
  · intro h
    obtain ⟨s, hs⟩ := completable_iff_advance.1 h
    rw [ofEvents_of_advance hs]
    by_cases hframes : s.frames = []
    · exact .inl ⟨_, finish_eq_ok_iff.2 ⟨hframes, rfl⟩⟩
    · exact .inr ⟨_, finish_eq_error_iff.2 ⟨hframes, rfl⟩⟩

/-- A failure carries the events themselves, and its message shows them by their lines. -/
theorem ofEvents_fails_firstHopeless (es : List Event) :
    (∀ p, (∃ err, ofEvents es = .error err ∧ err.position? = some p) ↔ FirstHopeless es p) ∧
    (∀ p found, ofEvents es = .error (.unexpectedEnd p found) ↔
      FirstHopeless es p ∧ es[p]? = some found ∧ Balanced (es.take p)) ∧
    (∀ p opener found,
      (ofEvents es = .error (.mismatched p opener found) ↔
        FirstHopeless es p ∧ es[p]? = some found ∧ ¬Balanced (es.take p) ∧
          InnermostOpen (es.take p) opener) ∧
      (BalanceError.mismatched p opener found).message =
        "mismatched events at position " ++ toString p ++ ": " ++ found.line ++
          " does not close " ++ opener.line) ∧
    (∀ err p, ofEvents es = .error err → err.position? = some p →
      ∀ more, ofEvents (es ++ more) = .error err) ∧
    (((∃ ts, ofEvents es = .ok ts) ∨ ∃ n, ofEvents es = .error (.unclosed n)) ↔
      Completable es) := by
  refine ⟨fun p => exists_ofEvents_fails_iff, fun p found => ofEvents_eq_unexpectedEnd_iff,
    fun p opener found => ⟨?_, rfl⟩, fun err p h hp => ofEvents_append_of_fails h hp,
    ofEvents_ok_or_unclosed_iff⟩
  rw [ofEvents_eq_mismatched_iff]
  constructor
  · rintro ⟨hfirst, hfound, hopen⟩
    exact ⟨hfirst, hfound, hopen.not_balanced, hopen⟩
  · rintro ⟨hfirst, hfound, -, hopen⟩
    exact ⟨hfirst, hfound, hopen⟩

theorem ofEvents_fails_firstHopeless_interleaved :
    let es : List Event := [.opening .paragraph, .opening .listItem, .closing .paragraph,
      .closing .listItem]
    let err : BalanceError := .mismatched 2 (.opening .listItem) (.closing .paragraph)
    ofEvents es = .error err ∧ err.position? = some 2 ∧ FirstHopeless es 2 ∧
      InnermostOpen (es.take 2) (.opening .listItem) ∧
      ofEvents (es ++ [.closing .paragraph]) = .error err := by
  intro es err
  have h : ofEvents es = .error err := rfl
  obtain ⟨-, -, hmismatched, hmore, -⟩ := ofEvents_fails_firstHopeless es
  obtain ⟨hfirst, -, -, hopen⟩ := (hmismatched 2 _ _).1.1 h
  exact ⟨h, rfl, hfirst, hopen, hmore err 2 h rfl [.closing .paragraph]⟩

end Forest

end DocStream

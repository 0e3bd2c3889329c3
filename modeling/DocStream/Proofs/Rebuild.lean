import DocStream.Forest

/-! Reading a stream back, one event at a time. A well-formed forest is what its own flattening
reads back as, and a stream that opens more containers than it closes is refused with their
number. -/

namespace DocStream

namespace Tree

def container (c : Container) (children : List Tree) : Tree :=
  .node (.opening c) (.closing c) children

mutual

/-- Leaves neither open nor close anything, and every node is closed by the event that ends it. -/
def WellFormed : Tree → Prop
  | leaf e => e.isOpening = false ∧ e.isClosing = false
  | node o c children => o.isOpening = true ∧ c.closes o = true ∧ AllWellFormed children

def AllWellFormed : List Tree → Prop
  | [] => True
  | t :: ts => t.WellFormed ∧ AllWellFormed ts

end

@[simp] theorem flatten_container (c : Container) (ts : List Tree) :
    (container c ts).flatten = .opening c :: flattenAll ts ++ [.closing c] := rfl

@[simp] theorem flattenAll_nil : flattenAll [] = [] := rfl

@[simp] theorem flattenAll_cons (t : Tree) (ts : List Tree) :
    flattenAll (t :: ts) = t.flatten ++ flattenAll ts := rfl

@[simp] theorem flattenAll_append (ts us : List Tree) :
    flattenAll (ts ++ us) = flattenAll ts ++ flattenAll us := by
  induction ts with
  | nil => rfl
  | cons t ts ih => simp only [List.cons_append, flattenAll_cons, ih, List.append_assoc]

@[simp] theorem wellFormed_container (c : Container) (ts : List Tree) :
    (container c ts).WellFormed ↔ AllWellFormed ts := by
  simp [container, WellFormed, Event.isOpening, Event.closes]

@[simp] theorem allWellFormed_nil : AllWellFormed [] := trivial

@[simp] theorem allWellFormed_cons (t : Tree) (ts : List Tree) :
    AllWellFormed (t :: ts) ↔ t.WellFormed ∧ AllWellFormed ts := Iff.rfl

@[simp] theorem allWellFormed_append (ts us : List Tree) :
    AllWellFormed (ts ++ us) ↔ AllWellFormed ts ∧ AllWellFormed us := by
  induction ts with
  | nil => simp
  | cons t ts ih => simp [ih, and_assoc]

end Tree

namespace Event

theorem closes_iff {e o : Event} :
    e.closes o = true ↔ ∃ c, e = .closing c ∧ o = .opening c := by
  cases e <;> cases o <;> simp [closes]

end Event

namespace Forest

def advance (s : Progress) (position : Nat) : List Event → Except BalanceError Progress
  | [] => .ok s
  | e :: es => (s.step position e).bind fun s => advance s (position + 1) es

theorem advance_append (s : Progress) (p : Nat) (es fs : List Event) :
    advance s p (es ++ fs) = (advance s p es).bind fun s => advance s (p + es.length) fs := by
  induction es generalizing s p with
  | nil => rfl
  | cons e es ih =>
    simp only [List.cons_append, advance, List.length_cons]
    cases s.step p e with
    | error err => rfl
    | ok s =>
      have hp : p + 1 + es.length = p + (es.length + 1) := by omega
      simp only [Except.bind, ih, hp]

theorem resume_eq_advance (s : Progress) (p : Nat) (es : List Event) :
    resume s p es = (advance s p es).bind Progress.finish := by
  induction es generalizing s p with
  | nil => rfl
  | cons e es ih =>
    simp only [resume, advance]
    cases s.step p e with
    | error err => rfl
    | ok s => exact ih s (p + 1)

theorem advance_append_of_ok {s t : Progress} {p : Nat} {es : List Event}
    (h : advance s p es = .ok t) (fs : List Event) :
    advance s p (es ++ fs) = advance t (p + es.length) fs := by
  rw [advance_append, h]
  rfl

theorem advance_append_of_error {s : Progress} {p : Nat} {es : List Event} {err : BalanceError}
    (h : advance s p es = .error err) (fs : List Event) :
    advance s p (es ++ fs) = .error err := by
  rw [advance_append, h]
  rfl

theorem ofEvents_of_advance {s : Progress} {es : List Event} (h : advance {} 0 es = .ok s) :
    ofEvents es = s.finish := by
  rw [ofEvents, resume_eq_advance, h]
  rfl

theorem ofEvents_of_advance_error {es : List Event} {err : BalanceError}
    (h : advance {} 0 es = .error err) : ofEvents es = .error err := by
  rw [ofEvents, resume_eq_advance, h]
  rfl

theorem finish_eq_ok_iff {s : Progress} {ts : List Tree} :
    s.finish = .ok ts ↔ s.frames = [] ∧ s.level.reverse = ts := by
  by_cases h : s.frames = [] <;> simp [Progress.finish, h]

theorem finish_eq_error_iff {s : Progress} {err : BalanceError} :
    s.finish = .error err ↔ s.frames ≠ [] ∧ .unclosed s.frames.length = err := by
  by_cases h : s.frames = [] <;> simp [Progress.finish, h]

theorem step_opening (s : Progress) (p : Nat) {o : Event} (h : o.isOpening = true) :
    s.step p o = .ok ⟨⟨o, s.level⟩ :: s.frames, []⟩ := by
  rw [Progress.step, if_pos h]

theorem step_closing {o e : Event} (h : e.closes o = true) (p : Nat) (frames : List Frame)
    (before level : List Tree) :
    Progress.step ⟨⟨o, before⟩ :: frames, level⟩ p e =
      .ok ⟨frames, .node o e level.reverse :: before⟩ := by
  obtain ⟨c, rfl, rfl⟩ := Event.closes_iff.1 h
  simp [Progress.step, Event.isOpening, Event.isClosing, h]

theorem step_leaf (s : Progress) (p : Nat) {e : Event} (ho : e.isOpening = false)
    (hc : e.isClosing = false) : s.step p e = .ok { s with level := .leaf e :: s.level } := by
  simp [Progress.step, ho, hc]

mutual

theorem advance_flatten (s : Progress) (p : Nat) :
    ∀ t : Tree, t.WellFormed → advance s p t.flatten = .ok { s with level := t :: s.level }
  | .leaf e, ⟨ho, hc⟩ => by
    rw [Tree.flatten, advance, step_leaf s p ho hc]
    rfl
  | .node o c ts, ⟨ho, hc, hts⟩ => by
    -- The children are read on an empty level of their own, which the closing event takes whole.
    rw [Tree.flatten, advance_append, advance, step_opening s p ho]
    simp only [Except.bind, advance_flattenAll _ (p + 1) ts hts, advance, List.append_nil]
    rw [step_closing hc, List.reverse_reverse]

theorem advance_flattenAll (s : Progress) (p : Nat) :
    ∀ ts : List Tree, Tree.AllWellFormed ts →
      advance s p (Tree.flattenAll ts) = .ok { s with level := ts.reverse ++ s.level }
  | [], _ => rfl
  | t :: ts, ⟨ht, hts⟩ => by
    rw [Tree.flattenAll, advance_append, advance_flatten s p t ht]
    simp only [Except.bind, advance_flattenAll _ _ ts hts, List.reverse_cons, List.append_assoc,
      List.singleton_append]

end

theorem ofEvents_flattenAll {ts : List Tree} (h : Tree.AllWellFormed ts) :
    ofEvents (Tree.flattenAll ts) = .ok ts := by
  rw [ofEvents_of_advance (advance_flattenAll _ _ ts h), finish_eq_ok_iff]
  simp

/-! ### Streams that stop too early -/

/-- Wherever the stream starts, it can be read and leaves `n` more containers open. -/
def Opens (n : Nat) (es : List Event) : Prop :=
  ∀ s p, ∃ s', advance s p es = .ok s' ∧ s'.frames.length = s.frames.length + n

theorem Opens.append {m n : Nat} {es fs : List Event} (he : Opens m es) (hf : Opens n fs) :
    Opens (m + n) (es ++ fs) := by
  intro s p
  obtain ⟨s', hs', hm⟩ := he s p
  obtain ⟨s'', hs'', hn⟩ := hf s' (p + es.length)
  refine ⟨s'', ?_, by omega⟩
  rw [advance_append, hs']
  exact hs''

theorem opens_nil : Opens 0 [] := fun s _ => ⟨s, rfl, rfl⟩

theorem opens_opening (c : Container) : Opens 1 [.opening c] := fun _ _ => ⟨_, rfl, rfl⟩

theorem opens_replicate (c : Container) (n : Nat) : Opens n (List.replicate n (.opening c)) := by
  induction n with
  | zero => exact opens_nil
  | succ n ih =>
    rw [List.replicate_succ, Nat.add_comm]
    exact (opens_opening c).append ih

theorem opens_flattenAll {ts : List Tree} (h : Tree.AllWellFormed ts) :
    Opens 0 (Tree.flattenAll ts) := fun s p => ⟨_, advance_flattenAll s p ts h, rfl⟩

theorem Opens.ofEvents {n : Nat} {es : List Event} (h : Opens (n + 1) es) :
    Forest.ofEvents es = .error (.unclosed (n + 1)) := by
  obtain ⟨s, hs, hn⟩ := h {} 0
  have hlen : s.frames.length = n + 1 := by simpa using hn
  have hne : s.frames ≠ [] := List.ne_nil_of_length_eq_add_one hlen
  rw [ofEvents_of_advance hs, finish_eq_error_iff.2 ⟨hne, rfl⟩, hlen]

end Forest

end DocStream

import DocStream.Proofs.Balance

/-! Streams one behind the other. Behind a balanced stream reading goes on as it would from the
start: the trees read so far stay in front of the outermost level, and every position is counted
from further back. So what is read of a stream does not depend on the balanced ones before it. -/

namespace DocStream

namespace BalanceError

def shift (k : Nat) : BalanceError → BalanceError
  | unexpectedEnd p found => unexpectedEnd (p + k) found
  | mismatched p opener found => mismatched (p + k) opener found
  | unclosed n => unclosed n

end BalanceError

namespace Forest

/-! ### Trees in front of a progress -/

/-- The open containers and the level inside them, with more trees (latest first) in front of the
outermost level. That level is what stands before the last of the frames. -/
def framesBehind (ts : List Tree) : List Frame → List Tree → Progress
  | [], level => ⟨[], level ++ ts⟩
  | f :: frames, level =>
    let outer := framesBehind ts frames f.before
    ⟨⟨f.opener, outer.level⟩ :: outer.frames, level⟩

def Progress.behind (s : Progress) (ts : List Tree) : Progress := framesBehind ts s.frames s.level

@[simp] theorem behind_nil (level ts : List Tree) :
    Progress.behind ⟨[], level⟩ ts = ⟨[], level ++ ts⟩ := rfl

@[simp] theorem behind_cons (f : Frame) (frames : List Frame) (level ts : List Tree) :
    Progress.behind ⟨f :: frames, level⟩ ts =
      ⟨⟨f.opener, (Progress.behind ⟨frames, f.before⟩ ts).level⟩ ::
        (Progress.behind ⟨frames, f.before⟩ ts).frames, level⟩ := rfl

theorem behind_add (frames : List Frame) (t : Tree) (level ts : List Tree) :
    Progress.behind ⟨frames, t :: level⟩ ts =
      ⟨(Progress.behind ⟨frames, level⟩ ts).frames,
        t :: (Progress.behind ⟨frames, level⟩ ts).level⟩ := by
  cases frames <;> rfl

theorem length_frames_behind (s : Progress) (ts : List Tree) :
    (s.behind ts).frames.length = s.frames.length := by
  obtain ⟨frames, level⟩ := s
  induction frames generalizing level with
  | nil => rfl
  | cons f frames ih => rw [behind_cons, List.length_cons, List.length_cons, ih f.before]

/-! ### Reading behind them -/

def later {α : Type} (f : α → α) (k : Nat) : Except BalanceError α → Except BalanceError α
  | .ok a => .ok (f a)
  | .error err => .error (err.shift k)

theorem Step.behind {p : Nat} {s : Progress} {e : Event} {r : Except BalanceError Progress}
    (h : Step p s e r) (ts : List Tree) (k : Nat) :
    Step (p + k) (s.behind ts) e (later (Progress.behind · ts) k r) := by
  cases h with
  | opens _ ho => exact .opens _ ho
  | @closes f frames level e he =>
    -- The finished container joins the level outside, wherever that level ends.
    show Step (p + k) _ e
      (.ok (Progress.behind ⟨frames, .node f.opener e level.reverse :: f.before⟩ ts))
    rw [behind_add, behind_cons]
    exact .closes he
  | leaf _ ho hc =>
    show Step (p + k) _ e (.ok (Progress.behind ⟨s.frames, .leaf e :: s.level⟩ ts))
    rw [behind_add]
    exact .leaf _ ho hc
  | unexpectedEnd hc => exact .unexpectedEnd hc
  | mismatched hc he => exact .mismatched hc he

theorem finish_behind (s : Progress) (ts : List Tree) (k : Nat) :
    (s.behind ts).finish = later (ts.reverse ++ ·) k s.finish := by
  obtain ⟨_ | ⟨f, frames⟩, level⟩ := s
  · have hlevel : (level ++ ts).reverse = ts.reverse ++ level.reverse := List.reverse_append
    exact congrArg Except.ok hlevel
  · have hlen := length_frames_behind ⟨f :: frames, level⟩ ts
    exact congrArg (fun n => Except.error (BalanceError.unclosed n)) hlen

theorem resume_behind (s : Progress) (ts : List Tree) (p k : Nat) (es : List Event) :
    resume (s.behind ts) (p + k) es = later (ts.reverse ++ ·) k (resume s p es) := by
  induction es generalizing s p with
  | nil => exact finish_behind s ts k
  | cons e es ih =>
    have hstep := ((step_spec s p e).behind ts k).eq
    rw [resume, resume, hstep]
    cases s.step p e with
    | error err => rfl
    | ok t =>
      have hp : p + k + 1 = p + 1 + k := by omega
      show resume (t.behind ts) (p + k + 1) es = later (ts.reverse ++ ·) k (resume t (p + 1) es)
      rw [hp]
      exact ih t (p + 1)

/-! ### Several streams -/

theorem ofEvents_append_of_ok {xs : List Event} {ts : List Tree} (h : ofEvents xs = .ok ts)
    (ys : List Event) : ofEvents (xs ++ ys) = later (ts ++ ·) xs.length (ofEvents ys) := by
  obtain ⟨s, hs, hframes, hlevel⟩ := ofEvents_eq_ok_iff_advance.1 h
  have hbehind : s = Progress.behind {} s.level := by
    obtain ⟨frames, level⟩ := s
    obtain rfl : frames = [] := hframes
    rfl
  have hresume := resume_behind {} s.level 0 xs.length ys
  rw [← hbehind, hlevel] at hresume
  rw [ofEvents, resume_eq_advance, advance_append_of_ok hs, ← resume_eq_advance]
  exact hresume

theorem validate_append_of_ok {xs : List Event} (h : validate xs = .ok ()) (ys : List Event) :
    validate (xs ++ ys) = .ok () ↔ validate ys = .ok () := by
  obtain ⟨ts, hts⟩ := balanced_iff_ofEvents.1 (validate_eq_ok_iff.1 h)
  rw [validate, validate, ofEvents_append_of_ok hts]
  cases ofEvents ys <;> simp [later, Except.map]

theorem ofEvents_flatMap {parts : List (List Event × List Tree)}
    (h : ∀ q ∈ parts, ofEvents q.1 = .ok q.2) :
    ofEvents (parts.flatMap Prod.fst) = .ok (parts.flatMap Prod.snd) := by
  induction parts with
  | nil => rfl
  | cons q parts ih =>
    obtain ⟨hq, hparts⟩ := List.forall_mem_cons.1 h
    rw [List.flatMap_cons, List.flatMap_cons, ofEvents_append_of_ok hq, ih hparts]
    rfl

/-- Behind a balanced stream another one is read as it is read alone, up to the positions; so of
several balanced streams in a row each keeps its own trees. -/
theorem reading_concatenates :
    (∀ (xs ys : List Event) (ts : List Tree), ofEvents xs = .ok ts →
      ofEvents (xs ++ ys) =
        match ofEvents ys with
        | .ok us => .ok (ts ++ us)
        | .error (.unexpectedEnd p found) => .error (.unexpectedEnd (p + xs.length) found)
        | .error (.mismatched p opener found) => .error (.mismatched (p + xs.length) opener found)
        | .error (.unclosed n) => .error (.unclosed n)) ∧
    (∀ xs ys : List Event, validate xs = .ok () →
      (validate (xs ++ ys) = .ok () ↔ validate ys = .ok ())) ∧
    ∀ parts : List (List Event × List Tree), (∀ q ∈ parts, ofEvents q.1 = .ok q.2) →
      ofEvents (parts.flatMap Prod.fst) = .ok (parts.flatMap Prod.snd) := by
  refine ⟨fun xs ys ts h => ?_, fun xs ys h => validate_append_of_ok h ys,
    fun parts => ofEvents_flatMap⟩
  rw [ofEvents_append_of_ok h]
  cases ofEvents ys with
  | ok us => rfl
  | error err => cases err <;> rfl

theorem reading_concatenates_mismatch :
    let xs : List Event := [.opening .paragraph, .text "a", .closing .paragraph]
    let ts : List Tree := [.container .paragraph [.leaf (.text "a")]]
    let ys : List Event := [.lineBreak, .opening (.header 1 none), .closing .listItem]
    ofEvents (xs ++ xs) = .ok (ts ++ ts) ∧
      ofEvents (xs ++ ys) =
        .error (.mismatched 5 (.opening (.header 1 none)) (.closing .listItem)) ∧
      validate (xs ++ ys) ≠ .ok () := by
  intro xs ts ys
  have hxs : ofEvents xs = .ok ts := rfl
  obtain ⟨hread, hvalidate, hparts⟩ := reading_concatenates
  have htwice := hparts [(xs, ts), (xs, ts)] (by simp [hxs])
  exact ⟨htwice, hread xs ys ts hxs, fun h => nomatch (hvalidate xs ys rfl).1 h⟩

end Forest

end DocStream

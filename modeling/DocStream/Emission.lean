import DocStream.Fragment

/-! What a walk over a document emits. A walk that fails keeps what it has emitted, so its result
is always the emitted events together with the failure that ended it, if one did. -/

namespace DocStream

inductive Failure where
  | fragment (error : FragmentError)
  | nestingTooDeep (depth limit : Nat)
deriving DecidableEq

namespace Failure

def message : Failure → String
  | fragment e => e.message
  | nestingTooDeep depth limit =>
    "source tree nested " ++ toString depth ++ " levels deep, the limit is " ++ toString limit

end Failure

structure Emission where
  events : List Event
  failure : Option Failure := none

namespace Emission

def done (es : List Event) : Emission := { events := es }

def fail (f : Failure) : Emission := { events := [], failure := some f }

def andThen (a : Emission) (b : Unit → Emission) : Emission :=
  match a.failure with
  | some f => ⟨a.events, some f⟩
  | none =>
    let b := b ()
    ⟨a.events ++ b.events, b.failure⟩

def onto (stream : List Event) (e : Emission) : Emission := ⟨stream ++ e.events, e.failure⟩

@[simp] theorem fail_andThen (f : Failure) (b : Unit → Emission) : (fail f).andThen b = fail f :=
  rfl

@[simp] theorem done_andThen (es : List Event) (b : Unit → Emission) :
    (done es).andThen b = (b ()).onto es := rfl

@[simp] theorem andThen_done_nil (a : Emission) : (a.andThen fun _ => done []) = a := by
  obtain ⟨es, _ | f⟩ := a
  · simp [andThen, done]
  · rfl

@[simp] theorem onto_done (stream es : List Event) : (done es).onto stream = done (stream ++ es) :=
  rfl

@[simp] theorem onto_nil (e : Emission) : e.onto [] = e := rfl

theorem onto_onto (xs ys : List Event) (e : Emission) :
    (e.onto ys).onto xs = e.onto (xs ++ ys) := by
  simp only [onto, List.append_assoc]

theorem onto_andThen (stream : List Event) (a : Emission) (b : Unit → Emission) :
    (a.onto stream).andThen b = (a.andThen b).onto stream := by
  cases h : a.failure with
  | none => simp only [andThen, onto, h, List.append_assoc]
  | some f => simp only [andThen, onto, h]

end Emission

end DocStream

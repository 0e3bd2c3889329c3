import DocStream.Proofs.RecordReading

/-! What can be read at all. Whatever a reader gives, from wherever it starts, has a property that
its parts give it; so no text at all stands for a tree that is higher than the brackets allow. -/

namespace DocStream

open Json (Reader)

namespace Json.Reader
variable {α β : Type} {P : α → Prop} {Q : β → Prop}

def Ensures (p : Reader α) (P : α → Prop) : Prop := ∀ c a c', p c = .ok (a, c') → P a

theorem Ensures.bind {p : Reader α} {f : α → Reader β} (hp : Ensures p P)
    (hf : ∀ a, P a → Ensures (f a) Q) : Ensures (p >>= f) Q := by
  intro c b c'' h
  cases hpc : p c with
  | error fault =>
    rw [bind_of_error hpc] at h
    cases h
  | ok r =>
    rw [bind_of_ok hpc] at h
    exact hf r.1 (hp c r.1 r.2 hpc) r.2 b c'' h

theorem Ensures.imp {p : Reader α} {P' : α → Prop} (hp : Ensures p P) (h : ∀ a, P a → P' a) :
    Ensures p P' := fun c a c' hc => h a (hp c a c' hc)

theorem Ensures.after {p : Reader α} {f : α → Reader β} (hf : ∀ a, Ensures (f a) Q) :
    Ensures (p >>= f) Q :=
  Ensures.bind (P := fun _ => True) (fun _ _ _ _ => trivial) fun a _ => hf a

theorem Ensures.pure {a : α} (h : P a) : Ensures (Pure.pure a) P := by
  intro c x c' hx
  cases hx
  exact h

theorem ensures_failHere (cause : Cause) : Ensures (failHere cause) P := nofun

theorem ensures_failNext (cause : Cause) : Ensures (failNext cause) P := nofun

theorem ensures_wrongType (expected : String) : Ensures (wrongType expected) P :=
  .after fun _ => ensures_failHere _

theorem ensures_elementsFrom {item : Reader α} (h : Ensures item P) (fuel : Nat) (first : Bool) :
    Ensures (elementsFrom item fuel first) fun xs => ∀ x ∈ xs, P x := by
  induction fuel generalizing first with
  | zero => exact ensures_failHere _
  | succ fuel ih =>
    refine .after fun more => ?_
    split
    · refine h.bind fun x hx => (ih false).bind fun xs hxs => .pure ?_
      exact List.forall_mem_cons.2 ⟨hx, hxs⟩
    · exact .pure nofun

theorem ensures_elements {item : Reader α} (h : Ensures item P) :
    Ensures (elements item) fun xs => ∀ x ∈ xs, P x :=
  .after fun _ => ensures_elementsFrom h _ _

theorem ensures_sequence {item : Reader α} (h : Ensures item P) (depth : Nat) :
    Ensures (sequence depth item) fun xs => ∀ x ∈ xs, P x := by
  refine .after fun token => ?_
  split
  · exact ensures_failNext _
  · have hitems : Ensures
        (do skip; let xs ← elements item; closeList; return xs : Reader (List α))
        fun xs => ∀ x ∈ xs, P x :=
      .after fun _ => (ensures_elements h).bind fun xs hxs => .after fun _ => .pure hxs
    dsimp only
    split
    · exact .after fun _ => hitems
    · exact hitems
  · exact ensures_wrongType _

end Json.Reader

namespace Source
open Json.Reader

/-! ### Fields and elements -/

section
variable {α σ : Type} {P : α → Prop} {I : σ → Prop}

theorem ensures_failBehind (bracket : Char) (cause : Json.Cause) :
    Ensures (failBehind bracket cause) P := by
  refine .after fun token => ?_
  dsimp only
  split
  · exact .after fun _ => ensures_failHere _
  · exact ensures_failHere _

theorem ensures_once {name : String} {old : Option α} {item : Reader α} (h : Ensures item P) :
    Ensures (once name old item) fun a => ∀ x ∈ a, P x := by
  have hvalue :
      Ensures (do colon; return some (← item) : Reader (Option α)) fun a => ∀ x ∈ a, P x :=
    .after fun _ => h.bind fun x hx => .pure (by simpa using hx)
  unfold once
  dsimp only
  split
  · exact .after fun _ => hvalue
  · exact hvalue

theorem ensures_elementOr {index : Nat} {default : α} {item : Reader α} (hdefault : P default)
    (h : Ensures item P) : Ensures (elementOr index default item) P := by
  refine .after fun more => ?_
  split
  · exact h
  · exact .pure hdefault

theorem ensures_fieldsFrom {field : σ → String → Reader σ}
    (hfield : ∀ s key, I s → Ensures (field s key) I) (fuel : Nat) (first : Bool) {s : σ}
    (hs : I s) : Ensures (fieldsFrom field fuel first s) I := by
  induction fuel generalizing first s with
  | zero => exact ensures_failHere _
  | succ fuel ih =>
    refine .after fun key => ?_
    split
    · exact .pure hs
    · exact (hfield _ _ hs).bind fun s' hs' => ih false hs'

theorem ensures_composite {depth : Nat} {expected : String} {named positioned : Reader α}
    (hnamed : 1 < depth → Ensures named P) (hpositioned : 1 < depth → Ensures positioned P) :
    Ensures (composite depth expected named positioned) P := by
  have hopened {p : Reader α} (hp : 1 < depth → Ensures p P) :
      Ensures (do if depth ≤ 1 then failNext .tooDeep
                  skip
                  p) P := by
    dsimp only
    split
    · exact .bind (ensures_failNext _) fun _ (h : False) => h.elim
    next hdepth => exact .after fun _ => hp (Nat.lt_of_not_le hdepth)
  refine .after fun token => ?_
  split
  · exact ensures_failNext _
  · exact hopened hnamed
  · exact hopened hpositioned
  · exact ensures_wrongType _

end

/-! ### Records -/

/-- With two brackets for every level of blocks. -/
def Low (n : Nat) (rs : List Record) : Prop := 2 * Outline.heights (Record.outlines rs) ≤ n

theorem low_nil (n : Nat) : Low n [] := Nat.zero_le n

theorem low_of_forall {n : Nat} {rs : List Record} (h : ∀ r ∈ rs, 2 * r.outline.height ≤ n) :
    Low n rs := by
  induction rs with
  | nil => exact low_nil n
  | cons r rs ih =>
    rw [List.forall_mem_cons] at h
    have hrs : 2 * Outline.heights (Record.outlines rs) ≤ n := ih h.2
    rw [Low, Record.outlines, Outline.heights]
    omega

theorem low_getD {n : Nat} {blocks : Option (List Record)} (h : ∀ rs ∈ blocks, Low n rs) :
    Low n (blocks.getD []) := by
  cases blocks with
  | none => exact low_nil n
  | some rs => exact h rs rfl

theorem height_le_of_low {n : Nat} {rs : List Record} (h : Low n rs) (f : RecordFields) :
    2 * (Record.mk f rs).outline.height ≤ n + 2 := by
  rw [Low] at h
  rw [Record.outline, Outline.height]
  omega

section
variable {n : Nat} {blocks : Reader (List Record)}

theorem ensures_recordField (hblocks : Ensures blocks (Low n)) (d : RecordDraft) (key : String)
    (hd : ∀ rs ∈ d.blocks, Low n rs) :
    Ensures (recordField blocks d key) fun d => ∀ rs ∈ d.blocks, Low n rs := by
  unfold recordField
  split
  iterate 6 exact .after fun _ => .pure hd
  · exact (ensures_once hblocks).bind fun rs hrs => .pure hrs
  · exact .after fun _ => .pure hd

theorem ensures_recordWith (depth : Nat) (hblocks : Ensures blocks (Low n)) :
    Ensures (recordWith depth blocks) fun r => 2 * r.outline.height ≤ n + 2 := by
  refine ensures_composite (fun _ => ?_) (fun _ => ?_)
  · have hfields (fuel : Nat) :=
      ensures_fieldsFrom (ensures_recordField hblocks) fuel true (s := {}) nofun
    refine .after fun c => (hfields _).bind fun d hd => ?_
    split
    · exact ensures_failBehind _ _
    · exact .after fun _ => .pure (height_le_of_low (low_getD hd) _)
  · have hlast : Ensures (elementOr 6 [] blocks) (Low n) := ensures_elementOr (low_nil n) hblocks
    exact .after fun _ => .after fun _ => .after fun _ => .after fun _ => .after fun _ =>
      .after fun _ => hlast.bind fun rs hrs => .after fun _ => .pure (height_le_of_low hrs _)

theorem ensures_recordWith_shallow {depth : Nat} (hdepth : depth ≤ 1) (P : Record → Prop) :
    Ensures (recordWith depth blocks) P :=
  ensures_composite (fun h => absurd hdepth (Nat.not_le.2 h))
    (fun h => absurd hdepth (Nat.not_le.2 h))

end

theorem ensures_record : ∀ depth : Nat, Ensures (record depth) fun r => 2 * r.outline.height ≤ depth
  | 0 => ensures_recordWith_shallow (Nat.zero_le 1) _
  | 1 => ensures_recordWith_shallow (Nat.le_refl 1) _
  | depth + 2 => by
    have hblocks : Ensures (sequence (depth + 1) (record depth)) (Low depth) :=
      (ensures_sequence (ensures_record depth) _).imp fun _ => low_of_forall
    exact ensures_recordWith (depth + 2) hblocks

/-! ### Documents -/

theorem ensures_records : Ensures records (Low 126) :=
  (ensures_sequence (ensures_record _) _).imp fun _ => low_of_forall

theorem ensures_documentField (d : DocumentDraft) (key : String)
    (hd : ∀ rs ∈ d.blocks, Low 126 rs) :
    Ensures (documentField d key) fun d => ∀ rs ∈ d.blocks, Low 126 rs := by
  unfold documentField
  split
  · exact .after fun _ => .pure hd
  · exact (ensures_once ensures_records).bind fun rs hrs => .pure hrs
  · exact .after fun _ => .pure hd

theorem ensures_documentRecord : Ensures documentRecord fun d => Low 126 d.blocks := by
  refine Ensures.bind ?_ fun d hd => .after fun _ => .pure hd
  refine ensures_composite (fun _ => ?_) (fun _ => ?_)
  · have hfields (fuel : Nat) :=
      ensures_fieldsFrom ensures_documentField fuel true (s := {}) nofun
    exact .after fun c => (hfields _).bind fun d hd => .after fun _ => .pure (low_getD hd)
  · have hlast : Ensures (elementOr 1 [] records) (Low 126) :=
      ensures_elementOr (low_nil 126) ensures_records
    exact .after fun _ => hlast.bind fun rs hrs => .after fun _ => .pure hrs

/-- No text stands for a document with more levels of blocks. -/
theorem heights_le_of_read {text : String} {doc : Document} (h : read text = .ok doc) :
    Outline.heights (Block.outlines doc.blocks) ≤ 63 := by
  unfold read at h
  split at h
  · cases h
  next d c hd =>
    have hlow : 2 * Outline.heights (Record.outlines d.blocks) ≤ 126 :=
      ensures_documentRecord _ _ _ hd
    have houtlines : d.document = .ok doc := by
      cases hdoc : d.document with
      | error e => simp [hdoc] at h
      | ok doc' => simpa [hdoc] using h
    rw [(d.document_outcome.good houtlines).1]
    omega

end Source

end DocStream

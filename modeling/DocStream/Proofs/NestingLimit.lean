import DocStream.Fragment.Plain
import DocStream.Proofs.FirstFailure
import DocStream.Proofs.JsonPrinting
import DocStream.Proofs.ReadHeight
import DocStream.Translation

/-! How deep a document may be nested. A tree that is walked may be as deep as the limit set for the
walk. One that is read from a text goes through the reader first, which takes 127 brackets, and a
level of blocks takes two of them. No setting changes this: up to 63 levels the text is translated
as the tree is, and beyond it is refused.

In the texts looked at here a block without any inside is written without a list of them. An empty
list takes a bracket of its own, so where the innermost blocks are written with one, 62 levels are
left. -/

namespace DocStream

def Document.nesting (d : Document) : Nat := Outline.heights (Block.outlines d.blocks)

/-! ### Depths of blocks -/

namespace Visit

mutual

theorem forall_depth_ofBlock (above : List Rung) (elders : List Block) (m : Nat) : ∀ b : Block,
    (∀ v ∈ ofBlock above elders b, v.depth ≤ m) ↔ above.length + b.outline.height ≤ m
  | .mk kind children => by
    have hhere : (⟨⟨elders, kind⟩, above⟩ : Visit).depth = above.length + 1 := rfl
    rw [ofBlock, List.forall_mem_cons, Block.outline, Outline.height, hhere]
    -- Its children count only while the block itself is not too deep.
    by_cases h : above.length + 1 ≤ m
    · rw [forall_depth_ofBlocks (⟨elders, kind⟩ :: above) [] m h children, List.length_cons]
      omega
    · omega

theorem forall_depth_ofBlocks (above : List Rung) (elders : List Block) (m : Nat)
    (hm : above.length ≤ m) : ∀ bs : List Block,
    (∀ v ∈ ofBlocks above elders bs, v.depth ≤ m) ↔
      above.length + Outline.heights (Block.outlines bs) ≤ m
  | [] => by simpa [ofBlocks, Block.outlines, Outline.heights] using hm
  | b :: bs => by
    rw [ofBlocks, List.forall_mem_append, Block.outlines, Outline.heights,
      forall_depth_ofBlock above elders m b,
      forall_depth_ofBlocks above (elders ++ [b]) m hm bs]
    omega

end

end Visit

theorem Document.forall_depth_le_iff {d : Document} {m : Nat} :
    (∀ v ∈ d.visits, v.depth ≤ m) ↔ d.nesting ≤ m := by
  have h := Visit.forall_depth_ofBlocks [] [] m (Nat.zero_le m) d.blocks
  rwa [List.length_nil, Nat.zero_add] at h

/-! ### Towers of blocks -/

def Block.tower : Nat → List Block
  | 0 => []
  | n + 1 => [.mk (.other "open") (tower n)]

namespace Document

def tower (n : Nat) : Document := { blocks := Block.tower n }

theorem nesting_tower (n : Nat) : (tower n).nesting = n := by
  induction n with
  | zero => rfl
  | succ n ih =>
    have hnext : (tower (n + 1)).nesting = max ((tower n).nesting + 1) 0 := rfl
    rw [hnext, ih, Nat.max_zero]

theorem canonical_tower (n : Nat) : (tower n).Canonical := by
  induction n with
  | zero => trivial
  | succ n ih => exact ⟨⟨by simp [BlockKind.Canonical, listContexts], ih⟩, trivial⟩

theorem fitsWord_tower (n : Nat) :
    ∀ f ∈ (DocumentRecord.ofDocument (tower n)).contents, f.FitsWord := by
  induction n with
  | zero => nofun
  | succ n ih =>
    exact List.forall_mem_append.2 ⟨List.forall_mem_cons.2 ⟨nofun, ih⟩, nofun⟩

end Document

/-! ### Trees and their texts -/

namespace Translator

def Readable (t : Translator) (wiki : Bool) (d : Document) : Prop :=
  ∀ v ∈ d.visits, (t.walker wiki).textRefusal (underList v.above) v.kind = none

section
variable {t : Translator} {wiki : Bool} {d : Document}

theorem nestingTooDeep_of_translate {depth limit : Nat}
    (h : t.translate wiki d.blocks = .error (.nestingTooDeep depth limit)) :
    depth = t.maxDepth + 1 ∧ limit = t.maxDepth ∧ t.maxDepth < d.nesting := by
  obtain ⟨v, hv⟩ := translate_eq_error_iff.1 h
  obtain ⟨before, after, hvisits, -, hfail⟩ := id hv
  obtain ⟨hdepth, hnext, hlimit⟩ := Walker.eq_of_nestingTooDeep hfail (length_above_le hv)
  refine ⟨hdepth.trans hnext, hlimit, Nat.lt_of_not_le fun hle => ?_⟩
  have hv : v.depth ≤ t.maxDepth := Document.forall_depth_le_iff.2 hle v (by simp [hvisits])
  rw [hnext] at hv
  exact Nat.not_succ_le_self _ hv

theorem failureAt_of_readable (hreadable : t.Readable wiki d) {v : Visit} (hv : v ∈ d.visits) :
    (t.walker wiki).failureAt v =
      if t.maxDepth < v.depth then some (.nestingTooDeep v.depth t.maxDepth) else none := by
  rw [Walker.failureAt, hreadable v hv]
  rfl

theorem translate_eq_ok_iff_of_readable (hreadable : t.Readable wiki d) :
    (∃ es, t.translate wiki d.blocks = .ok es) ↔ d.nesting ≤ t.maxDepth := by
  rw [translate_eq_ok_iff, ← Document.forall_depth_le_iff]
  refine forall₂_congr fun v hv => ?_
  rw [failureAt_of_readable hreadable hv]
  simp

theorem translate_eq_nestingTooDeep_iff_of_readable (hreadable : t.Readable wiki d) :
    t.translate wiki d.blocks = .error (.nestingTooDeep (t.maxDepth + 1) t.maxDepth) ↔
      t.maxDepth < d.nesting := by
  refine ⟨fun h => (nestingTooDeep_of_translate h).2.2, fun hnesting => ?_⟩
  cases h : t.translate wiki d.blocks with
  | ok es =>
    have hle := (translate_eq_ok_iff_of_readable hreadable).1 ⟨es, h⟩
    exact absurd hle (Nat.not_le.2 hnesting)
  | error f =>
    obtain ⟨v, before, after, hvisits, -, hfail⟩ := translate_eq_error_iff.1 h
    rw [failureAt_of_readable hreadable (by simp [hvisits])] at hfail
    split at hfail
    · cases hfail
      obtain ⟨hdepth, -, -⟩ := nestingTooDeep_of_translate h
      rw [hdepth]
    · cases hfail

end

theorem parse_ne_nestingTooDeep {t : Translator} (hlimit : 63 ≤ t.maxDepth) (wiki : Bool)
    (text : String) (depth limit : Nat) :
    t.parse Source.read wiki text ≠ .error (.walk (.nestingTooDeep depth limit)) := by
  intro h
  unfold parse at h
  split at h
  · cases h
  next d hread =>
    have hnesting : d.nesting ≤ 63 := Source.heights_le_of_read hread
    have htranslate : t.translate wiki d.blocks = .error (.nestingTooDeep depth limit) :=
      (mapError_walk_eq_error_iff _).1 h
    have hdeep : t.maxDepth < d.nesting := (nestingTooDeep_of_translate htranslate).2.2
    omega

section
variable {d : Document} {text : String}

theorem exists_string_of_mem_ofDocument (d : Document) :
    ∀ p ∈ (DocumentRecord.ofDocument d).attributes.entries, ∃ s, p.2 = .string s := by
  intro p hp
  obtain ⟨q, -, rfl⟩ := List.mem_map.1 hp
  exact ⟨q.2, rfl⟩

theorem heights_ofDocument (hcanonical : d.Canonical) :
    Outline.heights (Record.outlines (DocumentRecord.ofDocument d).blocks) = d.nesting := by
  have hdocument := DocumentRecord.document_ofDocument hcanonical
  have houtcome := (DocumentRecord.ofDocument d).document_outcome
  rw [← (houtcome.good hdocument).1, Document.nesting]

theorem parse_of_nesting_le (t : Translator) (wiki : Bool) (hcanonical : d.Canonical)
    (hwords : ∀ f ∈ (DocumentRecord.ofDocument d).contents, f.FitsWord)
    (htext : (DocumentRecord.ofDocument d).json.WrittenAs text) (hnesting : d.nesting ≤ 63) :
    t.parse Source.read wiki text = (t.translate wiki d.blocks).mapError .walk := by
  rw [← heights_ofDocument hcanonical] at hnesting
  have hread : Source.read text = .ok d := by
    rw [Source.read_of_height_le (exists_string_of_mem_ofDocument d) hwords htext hnesting,
      DocumentRecord.document_ofDocument hcanonical]
    rfl
  rw [parse, hread]

theorem parse_of_lt_nesting (t : Translator) (wiki : Bool) (hcanonical : d.Canonical)
    (hwords : ∀ f ∈ (DocumentRecord.ofDocument d).contents, f.FitsWord)
    (htext : (DocumentRecord.ofDocument d).json.WrittenAs text) (hnesting : 63 < d.nesting) :
    ∃ offset, t.parse Source.read wiki text = .error (.source (.json ⟨.tooDeep, offset⟩ text)) := by
  rw [← heights_ofDocument hcanonical] at hnesting
  obtain ⟨offset, hread⟩ :=
    Source.read_of_lt_height (exists_string_of_mem_ofDocument d) hwords htext hnesting
  exact ⟨offset, by rw [parse, hread]⟩

end

/-- The text of a tree, written without the lists of blocks that are empty, is translated as the
tree is exactly up to 63 levels of blocks. Of the two limits the lower one decides, and only up to
there is it the limit of the walk that is reported. -/
theorem parse_eq_translate_iff (t : Translator) (wiki : Bool) {d : Document} {text : String}
    (hcanonical : d.Canonical) (hwords : ∀ f ∈ (DocumentRecord.ofDocument d).contents, f.FitsWord)
    (htext : (DocumentRecord.ofDocument d).json.WrittenAs text) :
    (t.parse Source.read wiki text = (t.translate wiki d.blocks).mapError .walk ↔ d.nesting ≤ 63) ∧
    (63 < d.nesting →
      (∃ offset,
        t.parse Source.read wiki text = .error (.source (.json ⟨.tooDeep, offset⟩ text))) ∧
      ∀ other, Source.read other ≠ .ok d) ∧
    (t.Readable wiki d →
      ((∃ es, t.parse Source.read wiki text = .ok es) ↔ d.nesting ≤ min t.maxDepth 63) ∧
      (t.parse Source.read wiki text =
          .error (.walk (.nestingTooDeep (t.maxDepth + 1) t.maxDepth)) ↔
        t.maxDepth < d.nesting ∧ d.nesting ≤ 63)) := by
  have hdeep := parse_of_lt_nesting t wiki hcanonical hwords htext
  refine ⟨⟨fun heq => ?_, parse_of_nesting_le t wiki hcanonical hwords htext⟩,
    fun hnesting => ⟨hdeep hnesting, fun other hread => ?_⟩, fun hreadable => ?_⟩
  · rcases Nat.lt_or_ge 63 d.nesting with hnesting | hnesting
    · obtain ⟨offset, hparse⟩ := hdeep hnesting
      exact absurd (heq.symm.trans hparse) (mapError_walk_ne_source _ _)
    · exact hnesting
  · exact absurd (Source.heights_le_of_read hread) (Nat.not_le.2 hnesting)
  rcases Nat.lt_or_ge 63 d.nesting with hnesting | hnesting
  · obtain ⟨offset, hparse⟩ := hdeep hnesting
    simp only [hparse, reduceCtorEq, exists_false, false_iff, Except.error.injEq, Nat.le_min]
    omega
  · have hparse := parse_of_nesting_le t wiki hcanonical hwords htext hnesting
    simp only [hparse, mapError_walk_eq_ok_iff, mapError_walk_eq_error_iff,
      translate_eq_ok_iff_of_readable hreadable,
      translate_eq_nestingTooDeep_iff_of_readable hreadable, Nat.le_min]
    omega

theorem readable_plain (dialect : Dialect) (maxDepth : Nat) (wiki : Bool) (d : Document) :
    Readable { inline := Fragment.Plain.reader, plain := Fragment.Plain.reader, dialect, maxDepth }
      wiki d := by
  intro v _
  cases v.kind with
  | listItem text => cases underList v.above <;> rfl
  | _ => rfl

theorem parse_eq_translate_iff_tower :
    let t : Translator := { inline := Fragment.Plain.reader, plain := Fragment.Plain.reader }
    let text (n : Nat) : String := (DocumentRecord.ofDocument (.tower n)).json.pretty
    t.parse Source.read false (text 63) =
        (t.translate false (Document.tower 63).blocks).mapError .walk ∧
      (∃ es, t.parse Source.read false (text 63) = .ok es) ∧
      t.parse Source.read false (text 64) ≠
        (t.translate false (Document.tower 64).blocks).mapError .walk ∧
      { t with maxDepth := 2 }.parse Source.read true (text 3) =
        .error (.walk (.nestingTooDeep 3 2)) := by
  intro t text
  have hcanonical := Document.canonical_tower
  have hwords := Document.fitsWord_tower
  have htext (n : Nat) : (DocumentRecord.ofDocument (.tower n)).json.WrittenAs (text n) :=
    Json.writtenAs_pretty _
  obtain ⟨hequal, -, hlimits⟩ :=
    parse_eq_translate_iff t false (hcanonical 63) (hwords 63) (htext 63)
  obtain ⟨hdiffer, -⟩ := parse_eq_translate_iff t false (hcanonical 64) (hwords 64) (htext 64)
  obtain ⟨-, -, hlow⟩ :=
    parse_eq_translate_iff { t with maxDepth := 2 } true (hcanonical 3) (hwords 3) (htext 3)
  rw [Document.nesting_tower] at hequal hlimits hdiffer hlow
  refine ⟨hequal.2 (by decide), (hlimits (readable_plain _ _ false _)).1.2 (by decide), ?_, ?_⟩
  · exact fun heq => absurd (hdiffer.1 heq) (by decide)
  · exact (hlow (readable_plain _ _ true _)).2.2 (by decide)

/-- A tree well within the limit of the walk, whose text is refused all the same. -/
theorem parse_refuses_tower :
    let t : Translator := { inline := Fragment.Plain.reader, plain := Fragment.Plain.reader }
    let d : Document := .tower 64
    let text := (DocumentRecord.ofDocument d).json.compact
    d.nesting ≤ t.maxDepth ∧ (∃ es, t.translate false d.blocks = .ok es) ∧
      ∃ offset,
        t.parse Source.read false text = .error (.source (.json ⟨.tooDeep, offset⟩ text)) := by
  intro t d text
  have hnesting : d.nesting = 64 := Document.nesting_tower 64
  have hle : d.nesting ≤ t.maxDepth := by
    rw [hnesting]
    decide
  have hdeep : 63 < d.nesting := by
    rw [hnesting]
    decide
  have hreadable : t.Readable false d := readable_plain _ _ false d
  refine ⟨hle, (translate_eq_ok_iff_of_readable hreadable).2 hle, ?_⟩
  exact parse_of_lt_nesting t false (Document.canonical_tower 64) (Document.fitsWord_tower 64)
    (Json.writtenAs_compact _) hdeep

end Translator

end DocStream

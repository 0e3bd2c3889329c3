import DocStream.Source.Record

/-! Documents as records and back. A document record is refused exactly if some section in it lacks
its level; otherwise its document has the same outline, and only kinds of blocks that their contexts
allow. A document of that form is what its own record stands for, and no field counts that is not of
the kind of its record. -/

namespace DocStream

/-! ### Single blocks -/

namespace RecordFields

def LacksLevel (f : RecordFields) : Prop := f.context = "section" ∧ f.level = none

def own (f : RecordFields) : RecordFields where
  context := f.context
  level := if f.context = "section" then f.level else none
  id := if f.context = "section" then f.id else none
  title := if f.context = "section" then f.title else none
  text := if f.context = "list_item" then f.text else none
  content := if f.context = "paragraph" then f.content else none

def ofKind : BlockKind → RecordFields
  | .sect level id title => { context := "section", level := some level, id, title := some title }
  | .list context => { context }
  | .listItem text => { context := "list_item", text := some text }
  | .paragraph content => { context := "paragraph", content := some content }
  | .other context => { context }

end RecordFields

def InvalidRecord.missingLevel : InvalidRecord := ⟨"section", "missing `level`"⟩

/-- A list has one of the contexts of lists, and no other block has that of a kind of its own. -/
def BlockKind.Canonical : BlockKind → Prop
  | list context => context ∈ listContexts
  | other context => context ∉ ["section", "list_item", "paragraph"] ++ listContexts
  | _ => True

namespace RecordFields

theorem kind_of_lacksLevel {f : RecordFields} (h : f.LacksLevel) :
    f.kind = .error .missingLevel := by
  obtain ⟨hcontext, hlevel⟩ := h
  rw [kind, if_pos hcontext, hlevel, hcontext]
  rfl

theorem exists_kind_of_not_lacksLevel {f : RecordFields} (h : ¬f.LacksLevel) :
    ∃ k, f.kind = .ok k ∧ k.context = f.context ∧ k.Canonical := by
  unfold kind
  split
  next hsection =>
    obtain ⟨level, hlevel⟩ := Option.ne_none_iff_exists'.1 fun hnone => h ⟨hsection, hnone⟩
    rw [hlevel]
    exact ⟨_, rfl, hsection.symm, trivial⟩
  next hsection =>
    split
    next hlist => exact ⟨_, rfl, rfl, List.contains_iff_mem.1 hlist⟩
    next hlist =>
      split
      next hitem => exact ⟨_, rfl, hitem.symm, trivial⟩
      next hitem =>
        split
        next hparagraph => exact ⟨_, rfl, hparagraph.symm, trivial⟩
        next hparagraph =>
          refine ⟨_, rfl, rfl, ?_⟩
          simp_all [BlockKind.Canonical]

theorem kind_ofKind {k : BlockKind} (h : k.Canonical) : (ofKind k).kind = .ok k := by
  cases k with
  | sect level id title => rfl
  | list context =>
    have hsection : context ≠ "section" := by
      rintro rfl
      simp [BlockKind.Canonical, listContexts] at h
    rw [kind, ofKind, if_neg hsection, if_pos (List.contains_iff_mem.2 h)]
  | listItem text => rfl
  | paragraph content => rfl
  | other context =>
    simp only [BlockKind.Canonical, List.mem_append, List.mem_cons, List.not_mem_nil, or_false,
      not_or] at h
    obtain ⟨⟨hsection, hitem, hparagraph⟩, hlist⟩ := h
    simp [kind, ofKind, hsection, hitem, hparagraph, hlist]

theorem kind_own (f : RecordFields) : f.own.kind = f.kind := by
  unfold kind own
  by_cases hsection : f.context = "section"
  · simp [hsection]
  by_cases hitem : f.context = "list_item"
  · simp [hitem]
  by_cases hparagraph : f.context = "paragraph"
  · simp [hparagraph]
  simp [hsection, hitem, hparagraph]

end RecordFields

/-! ### Whole trees -/

inductive Outline where
  | mk (context : String) (children : List Outline)

namespace Record

mutual

def contents : Record → List RecordFields
  | mk f rs => f :: contentsAll rs

def contentsAll : List Record → List RecordFields
  | [] => []
  | r :: rs => r.contents ++ contentsAll rs

end

mutual

def outline : Record → Outline
  | mk f rs => .mk f.context (outlines rs)

def outlines : List Record → List Outline
  | [] => []
  | r :: rs => r.outline :: outlines rs

end

mutual

def own : Record → Record
  | mk f rs => mk f.own (ownAll rs)

def ownAll : List Record → List Record
  | [] => []
  | r :: rs => r.own :: ownAll rs

end

mutual

def ofBlock : Block → Record
  | .mk kind children => mk (.ofKind kind) (ofBlocks children)

def ofBlocks : List Block → List Record
  | [] => []
  | b :: bs => ofBlock b :: ofBlocks bs

end

end Record

namespace Block

mutual

def outline : Block → Outline
  | mk kind children => .mk kind.context (outlines children)

def outlines : List Block → List Outline
  | [] => []
  | b :: bs => b.outline :: outlines bs

end

mutual

def Canonical : Block → Prop
  | mk kind children => kind.Canonical ∧ AllCanonical children

def AllCanonical : List Block → Prop
  | [] => True
  | b :: bs => b.Canonical ∧ AllCanonical bs

end

end Block

namespace Record

/-- What becomes of records: all of them blocks, or none of them because one lacks its level. -/
inductive Outcome {α : Type} (fields : List RecordFields) (Good : α → Prop) :
    Except InvalidRecord α → Prop where
  | accepted {a : α} (h : ∀ f ∈ fields, ¬f.LacksLevel) (ha : Good a) : Outcome fields Good (.ok a)
  | refused {f : RecordFields} (hmem : f ∈ fields) (hf : f.LacksLevel) :
    Outcome fields Good (.error .missingLevel)

section
variable {α : Type} {fields : List RecordFields} {Good : α → Prop} {result : Except InvalidRecord α}

theorem Outcome.good {a : α} (h : Outcome fields Good result) (hresult : result = .ok a) :
    Good a := by
  cases h with
  | accepted hfields ha => exact Except.ok.inj hresult ▸ ha
  | refused hmem hf => cases hresult

end

mutual

theorem block_outcome : ∀ r : Record,
    Outcome r.contents (fun b => b.outline = r.outline ∧ b.Canonical) r.block
  | mk f rs => by
    rw [block]
    by_cases hf : f.LacksLevel
    · rw [RecordFields.kind_of_lacksLevel hf]
      exact .refused (List.mem_cons_self) hf
    obtain ⟨k, hk, hcontext, hcanonical⟩ := RecordFields.exists_kind_of_not_lacksLevel hf
    have hbelow := blocks_outcome rs
    rw [hk]
    generalize blocks rs = bs at hbelow
    cases hbelow with
    | refused hmem hf => exact .refused (List.mem_cons_of_mem _ hmem) hf
    | accepted hrs hbs =>
      refine .accepted (List.forall_mem_cons.2 ⟨hf, hrs⟩) ⟨?_, hcanonical, hbs.2⟩
      rw [Block.outline, Record.outline, hcontext, hbs.1]

theorem blocks_outcome : ∀ rs : List Record,
    Outcome (contentsAll rs) (fun bs => Block.outlines bs = outlines rs ∧ Block.AllCanonical bs)
      (blocks rs)
  | [] => .accepted nofun ⟨rfl, trivial⟩
  | r :: rs => by
    have hfirst := block_outcome r
    have hrest := blocks_outcome rs
    rw [blocks]
    generalize r.block = b at hfirst
    generalize blocks rs = bs at hrest
    cases hfirst with
    | refused hmem hf => exact .refused (List.mem_append_left _ hmem) hf
    | accepted hr hb =>
      cases hrest with
      | refused hmem hf => exact .refused (List.mem_append_right _ hmem) hf
      | accepted hrs hbs =>
        refine .accepted (List.forall_mem_append.2 ⟨hr, hrs⟩) ⟨?_, hb.2, hbs.2⟩
        rw [Block.outlines, Record.outlines, hb.1, hbs.1]

end

mutual

theorem block_ofBlock : ∀ b : Block, b.Canonical → (ofBlock b).block = .ok b
  | .mk kind children, h => by
    rw [ofBlock, block, RecordFields.kind_ofKind h.1, blocks_ofBlocks children h.2]

theorem blocks_ofBlocks : ∀ bs : List Block, Block.AllCanonical bs → blocks (ofBlocks bs) = .ok bs
  | [], _ => rfl
  | b :: bs, h => by rw [ofBlocks, blocks, block_ofBlock b h.1, blocks_ofBlocks bs h.2]

end

mutual

theorem block_own : ∀ r : Record, r.own.block = r.block
  | mk f rs => by rw [own, block, block, RecordFields.kind_own, blocks_ownAll rs]

theorem blocks_ownAll : ∀ rs : List Record, blocks (ownAll rs) = blocks rs
  | [] => rfl
  | r :: rs => by rw [ownAll, blocks, blocks, block_own r, blocks_ownAll rs]

end

end Record

/-! ### Documents -/

def Document.Canonical (d : Document) : Prop := Block.AllCanonical d.blocks

namespace DocumentRecord

def contents (d : DocumentRecord) : List RecordFields := Record.contentsAll d.blocks

def own (d : DocumentRecord) : DocumentRecord := { d with blocks := Record.ownAll d.blocks }

def ofDocument (d : Document) : DocumentRecord :=
  ⟨d.attributes.map .string, Record.ofBlocks d.blocks⟩

theorem document_outcome (d : DocumentRecord) :
    Record.Outcome d.contents (fun doc : Document =>
      Block.outlines doc.blocks = Record.outlines d.blocks ∧ doc.Canonical) d.document := by
  have hblocks := Record.blocks_outcome d.blocks
  unfold document
  generalize Record.blocks d.blocks = bs at hblocks
  cases hblocks with
  | refused hmem hf => exact .refused hmem hf
  | accepted hrs hbs => exact .accepted hrs hbs

theorem document_ofDocument {d : Document} (h : d.Canonical) : (ofDocument d).document = .ok d := by
  have hattributes :
      (d.attributes.map Json.string).entries.map (fun p => (p.1, p.2.attributeText)) =
        d.attributes.entries := by
    simp [Dictionary.map, Function.comp_def, Json.attributeText]
  unfold document ofDocument
  rw [Record.blocks_ofBlocks d.blocks h]
  simp only [hattributes, Dictionary.ofList_entries]

end DocumentRecord

end DocStream

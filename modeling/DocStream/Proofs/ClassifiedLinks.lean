import DocStream.Proofs.WikiMode

/-! The links of a stream. Whatever the readers make of the texts, and wherever a run ends, each
link it has emitted is an address, a mail link or, in wiki mode alone, an untyped reference to a
document, and only mail links carry parameters. -/

namespace DocStream

structure LinkHead.Classified (wiki : Bool) (h : LinkHead) : Prop where
  kind : h.reference.kind = .url ∨ h.reference.kind = .mailto ∨
    wiki = true ∧ h.reference.kind = .document
  parameters : h.reference.kind ≠ .mailto → h.reference.parameters = ∅
  untyped : h.reference.kind = .document → h.reference.typed = false ∧ h.freeStanding = false

def Event.Classified (wiki : Bool) (e : Event) : Prop :=
  ∀ h : LinkHead, e = .opening (.link h) ∨ e = .closing (.link h) → h.Classified wiki

theorem Reference.kind_of_linkClass_url {r : Reference} (h : r.linkClass = .url) :
    r.kind = .url := by
  unfold linkClass at h
  split at h
  next hurl => exact hurl
  next => split at h <;> cases h
  next => cases h

theorem Link.changedHead_of_url {h : LinkHead} (hclass : h.reference.linkClass = .url)
    (wiki : Bool) :
    Link.changedHead (·.reclassify wiki) h =
      ⟨{ h.reference with parameters := ∅ }, h.freeStanding⟩ := by
  simp [Link.changedHead, Link.reclassify, Reference.reclassify, hclass]

theorem Link.changedHead_of_mailto {h : LinkHead} (hclass : h.reference.linkClass = .mailto)
    (wiki : Bool) :
    ∃ target, Link.changedHead (·.reclassify wiki) h =
      ⟨{ h.reference with kind := .mailto, target }, h.freeStanding⟩ := by
  simp [Link.changedHead, Link.reclassify, Reference.reclassify, hclass]

theorem LinkHead.classified_changedHead (wiki : Bool) (h : LinkHead) :
    (Link.changedHead (·.reclassify wiki) h).Classified wiki := by
  cases hclass : h.reference.linkClass with
  | url =>
    have hkind : h.reference.kind = .url := Reference.kind_of_linkClass_url hclass
    rw [Link.changedHead_of_url hclass]
    refine ⟨.inl hkind, fun _ => rfl, fun hdocument => ?_⟩
    cases hkind.symm.trans hdocument
  | mailto =>
    obtain ⟨target, hmailto⟩ := Link.changedHead_of_mailto hclass wiki
    rw [hmailto]
    exact ⟨.inr (.inl rfl), fun hne => absurd rfl hne, nofun⟩
  | untyped =>
    rw [Link.changedHead_of_untyped hclass]
    cases wiki with
    | false => exact ⟨.inl rfl, fun _ => rfl, nofun⟩
    | true => exact ⟨.inr (.inr ⟨rfl, rfl⟩), fun _ => rfl, fun _ => ⟨rfl, rfl⟩⟩

namespace Event

theorem classified_mapHead (wiki : Bool) (e : Event) :
    (e.mapHead (Link.changedHead (·.reclassify wiki))).Classified wiki := by
  have hcontainer (c : Container) (h : LinkHead)
      (hc : c.mapHead (Link.changedHead (·.reclassify wiki)) = .link h) : h.Classified wiki := by
    cases c with
    | link l =>
      obtain rfl : Link.changedHead (·.reclassify wiki) l = h := Container.link.inj hc
      exact l.classified_changedHead wiki
    | document d => cases hc
    | sect => cases hc
    | header level id => cases hc
    | list kind => cases hc
    | listItem => cases hc
    | paragraph => cases hc
    | format s => cases hc
  intro h he
  cases e with
  | opening c =>
    obtain he | he := he
    · exact hcontainer c h (Event.opening.inj he)
    · cases he
  | closing c =>
    obtain he | he := he
    · cases he
    · exact hcontainer c h (Event.closing.inj he)
  | text s => obtain he | he := he <;> cases he
  | lineBreak => obtain he | he := he <;> cases he

theorem classified_of_isBlock (wiki : Bool) {e : Event} (h : e.isBlock = true) :
    e.Classified wiki := by
  rintro l (rfl | rfl) <;> cases h

end Event

/-! ### The walk -/

namespace Emission

def Every (P : Event → Prop) (a : Emission) : Prop := ∀ e ∈ a.events, P e

variable {P : Event → Prop}

theorem Every.andThen {a b : Emission} (ha : a.Every P) (hb : b.Every P) :
    (a.andThen fun _ => b).Every P := by
  unfold Emission.andThen
  cases a.failure with
  | some f => exact ha
  | none => exact List.forall_mem_append.2 ⟨ha, hb⟩

theorem blockCongruence_every (h : ∀ e : Event, e.isBlock = true → P e) :
    BlockCongruence fun a _ => a.Every P where
  done _ hes e he := h e (hes e he)
  andThen := Every.andThen

end Emission

namespace Walker

theorem every_fragment_classified (w : Walker) (read : FragmentReader) (text : String)
    (strip : Bool) : (w.fragment read text strip).Every (Event.Classified w.wiki) := by
  unfold fragment
  cases hread : read text with
  | error e =>
    rw [Fragment.translate_of_error hread]
    exact nofun
  | ok f =>
    rw [Fragment.translate_eq_events hread]
    intro e he
    obtain ⟨e', -, rfl⟩ : ∃ e' ∈ (if strip then f.stripWrapper else f).events,
        e'.mapHead (Link.changedHead (·.reclassify w.wiki)) = e := by
      rwa [← List.mem_map, ← Fragment.events_mapLinks]
    exact e'.classified_mapHead w.wiki

theorem related_every_classified (w : Walker) :
    Related (fun a _ => a.Every (Event.Classified w.wiki)) w w where
  enter depth := by
    unfold enter
    split <;> exact nofun
  plain := w.every_fragment_classified w.plain
  inline := w.every_fragment_classified w.inline

end Walker

namespace Translator

/-- The events of a run that fails are those it has emitted up to there. -/
theorem run_links_classified (t : Translator) (wiki : Bool) (d : Document) (h : LinkHead)
    (hmem : .opening (.link h) ∈ (t.run wiki d.blocks).events ∨
      .closing (.link h) ∈ (t.run wiki d.blocks).events) :
    h.Classified wiki := by
  have hR := Emission.blockCongruence_every fun _ => Event.classified_of_isBlock wiki
  have hblocks : ((t.walker wiki).blocks 1 false d.blocks).Every (Event.Classified wiki) :=
    (t.walker wiki).related_every_classified.walkBlocks hR 1 false d.blocks
  have hends (e : Event) (he : e = .opening (.document t.dialect) ∨
      e = .closing (.document t.dialect)) : (Emission.done [e]).Every (Event.Classified wiki) := by
    obtain rfl | rfl := he <;> simp [Emission.Every, Emission.done, Event.Classified]
  have hrun : (t.run wiki d.blocks).Every (Event.Classified wiki) :=
    (hends _ (.inl rfl)).andThen (hblocks.andThen (hends _ (.inr rfl)))
  obtain hmem | hmem := hmem
  · exact hrun _ hmem h (.inl rfl)
  · exact hrun _ hmem h (.inr rfl)

theorem run_links_classified_document :
    let head : LinkHead :=
      { reference := { kind := .document, target := "x", parameters := .ofList [("class", "bare")] }
        freeStanding := true }
    let read : FragmentReader := fun text =>
      if text = "bad" then .error ⟨text, "refused"⟩ else .ok [.link head [.text text]]
    let t : Translator := { inline := read, plain := read }
    let d : Document := { blocks := [.mk (.paragraph "good") [], .mk (.paragraph "bad") []] }
    let emitted : LinkHead :=
      { reference := { kind := .url, target := "x", typed := false }, freeStanding := false }
    (t.run false d.blocks).failure = some (.fragment ⟨"bad", "refused"⟩) ∧
      .opening (.link emitted) ∈ (t.run false d.blocks).events ∧ emitted.Classified false := by
  intro head read t d emitted
  have hmem : .opening (.link emitted) ∈ (t.run false d.blocks).events := by decide
  exact ⟨rfl, hmem, run_links_classified t false d emitted (.inl hmem)⟩

end Translator

end DocStream

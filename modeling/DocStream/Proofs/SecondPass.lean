import DocStream.Proofs.LinkAddresses

/-! Links that are reclassified once more. The second pass finds nothing to do in an address and
puts a reference to a document under its own mode, so that two passes in one mode are one. Only a
mail link is lost in the second pass: its class shows in the target of a path, and what the first
pass leaves of it is no path. -/

namespace DocStream

def Reference.IsMailPath (r : Reference) : Prop :=
  r.kind = .path ∧ ∃ mailbox, r.target = "mailto:" ++ mailbox

theorem Reference.linkClass_eq_mailto_iff {r : Reference} :
    r.linkClass = .mailto ↔ r.IsMailPath := by
  have hmail : (afterMailto r.target).isSome = true ↔
      ∃ mailbox, r.target = "mailto:" ++ mailbox := by
    rw [Option.isSome_iff_exists]
    exact exists_congr fun _ => afterMailto_eq_some_iff
  rw [IsMailPath, ← hmail, linkClass]
  cases r.kind with
  | path => by_cases h : (afterMailto r.target).isSome = true <;> simp [h]
  | url => simp
  | mailto => simp
  | document => simp
  | unspecified => simp

namespace Link

theorem reclassify_of_url {l : Link} (h : l.head.reference.linkClass = .url) (wiki : Bool) :
    l.reclassify wiki =
      ⟨⟨{ l.head.reference with parameters := ∅ }, l.head.freeStanding⟩, l.label⟩ :=
  congrArg (Link.mk · l.label) (changedHead_of_url h wiki)

theorem reclassify_of_untyped {l : Link} (h : l.head.reference.linkClass = .untyped)
    (wiki : Bool) :
    l.reclassify wiki =
      ⟨.untyped (if wiki then .document else .url) l.head.reference.target, l.label⟩ :=
  congrArg (Link.mk · l.label) (changedHead_of_untyped h wiki)

theorem reclassify_of_mailbox {l : Link} {mailbox : String} (hkind : l.head.reference.kind = .path)
    (htarget : l.head.reference.target = "mailto:" ++ mailbox) (wiki : Bool) :
    l.reclassify wiki =
      ⟨⟨{ l.head.reference with kind := .mailto, target := mailbox }, l.head.freeStanding⟩,
        l.label⟩ := by
  have hclass : l.head.reference.linkClass = .mailto :=
    Reference.linkClass_eq_mailto_iff.2 ⟨hkind, mailbox, htarget⟩
  have hmailbox : Reference.afterMailto l.head.reference.target = some mailbox :=
    Reference.afterMailto_eq_some_iff.2 htarget
  simp [reclassify, Reference.reclassify, hclass, hmailbox]

theorem linkClass_reclassify_of_mailbox {l : Link} {mailbox : String}
    (hkind : l.head.reference.kind = .path)
    (htarget : l.head.reference.target = "mailto:" ++ mailbox) (wiki : Bool) :
    (l.reclassify wiki).head.reference.linkClass = .untyped := by
  rw [reclassify_of_mailbox hkind htarget]
  rfl

/-- A link without a mail address becomes one that the next pass leaves as it is, or one that it
takes for the untyped link that it was before. -/
theorem reclassify_cases {l : Link} (h : ¬l.head.reference.IsMailPath) (wiki : Bool) :
    (l.reclassify wiki).head.reference.kind = .url ∧
        (∀ later, (l.reclassify wiki).reclassify later = l.reclassify wiki) ∨
      (l.reclassify wiki).head.reference.kind = .document ∧
        ∀ later, (l.reclassify wiki).reclassify later = l.reclassify later := by
  have hagain {m : Link} (hkind : m.head.reference.kind = .url)
      (hempty : m.head.reference.parameters = ∅) (later : Bool) : m.reclassify later = m := by
    have hclass : m.head.reference.linkClass = .url := by
      rw [Reference.linkClass, hkind]
    obtain ⟨⟨⟨kind, target, typed, parameters⟩, freeStanding⟩, label⟩ := m
    obtain rfl : parameters = ∅ := hempty
    exact reclassify_of_url hclass later
  cases hclass : l.head.reference.linkClass with
  | mailto => exact absurd (Reference.linkClass_eq_mailto_iff.1 hclass) h
  | url =>
    have hurl : (l.reclassify wiki).head.reference.kind = .url := by
      rw [reclassify_of_url hclass]
      exact Reference.kind_of_linkClass_url hclass
    refine .inl ⟨hurl, hagain hurl ?_⟩
    rw [reclassify_of_url hclass]
  | untyped =>
    cases wiki with
    | false =>
      rw [reclassify_of_untyped hclass]
      exact .inl ⟨rfl, hagain rfl rfl⟩
    | true =>
      refine .inr ⟨?_, fun later => ?_⟩
      · rw [reclassify_of_untyped hclass]
        rfl
      · have hdocument : (l.reclassify true).head.reference.linkClass = .untyped := by
          rw [reclassify_of_untyped hclass]
          rfl
        rw [reclassify_of_untyped hdocument, reclassify_of_untyped hclass,
          reclassify_of_untyped hclass]
        rfl

theorem reclassify_again_iff (l : Link) (wiki : Bool) :
    (l.reclassify wiki).reclassify wiki = l.reclassify wiki ↔ ¬l.head.reference.IsMailPath := by
  constructor
  · rintro hagain ⟨hkind, mailbox, htarget⟩
    have hclass := linkClass_reclassify_of_mailbox hkind htarget wiki
    rw [reclassify_of_untyped hclass, reclassify_of_mailbox hkind htarget] at hagain
    -- A mail link has turned into an untyped one.
    have hmail := congrArg (fun m : Link => m.head.reference.kind) hagain
    cases wiki <;> cases hmail
  · intro h
    obtain ⟨-, hurl⟩ | ⟨-, hdocument⟩ := reclassify_cases h wiki
    · exact hurl wiki
    · exact hdocument wiki

theorem target_reclassify_of_not_isMailPath {l : Link} (h : ¬l.head.reference.IsMailPath)
    (wiki : Bool) : (l.reclassify wiki).head.reference.target = l.head.reference.target := by
  cases hclass : l.head.reference.linkClass with
  | mailto => exact absurd (Reference.linkClass_eq_mailto_iff.1 hclass) h
  | url => rw [reclassify_of_url hclass]
  | untyped =>
    rw [reclassify_of_untyped hclass]
    rfl

theorem not_isMailPath_reclassify (l : Link) (wiki : Bool) :
    ¬(l.reclassify wiki).head.reference.IsMailPath := by
  rintro ⟨hpath, -⟩
  by_cases h : l.head.reference.IsMailPath
  · obtain ⟨hkind, mailbox, htarget⟩ := h
    rw [reclassify_of_mailbox hkind htarget] at hpath
    cases hpath
  · obtain ⟨hurl, -⟩ | ⟨hdocument, -⟩ := reclassify_cases h wiki
    · cases hurl.symm.trans hpath
    · cases hdocument.symm.trans hpath

/-- The first pass decides about a link, unless it was in wiki mode and made it point at a document:
then a second one does. Targets change in the first pass only, and labels never. -/
theorem reclassify_twice (l : Link) (first later : Bool) :
    ((l.reclassify first).reclassify first = l.reclassify first ↔
      ¬l.head.reference.IsMailPath) ∧
    (¬l.head.reference.IsMailPath →
      (l.reclassify first).head.reference.kind = .url ∧
          (l.reclassify first).reclassify later = l.reclassify first ∨
        (l.reclassify first).head.reference.kind = .document ∧
          (l.reclassify first).reclassify later = l.reclassify later) ∧
    ((l.reclassify first).label = l.label ∧
      ((l.reclassify first).reclassify later).label = l.label) ∧
    (∀ mailbox, l.head.reference.kind = .path →
      l.head.reference.target = "mailto:" ++ mailbox →
        (l.reclassify first).head.reference.target = mailbox) ∧
    (¬l.head.reference.IsMailPath →
      (l.reclassify first).head.reference.target = l.head.reference.target) ∧
    ((l.reclassify first).reclassify later).head.reference.target =
      (l.reclassify first).head.reference.target := by
  refine ⟨reclassify_again_iff l first, fun h => ?_, ⟨rfl, rfl⟩, fun mailbox hkind htarget => ?_,
    fun h => target_reclassify_of_not_isMailPath h first,
    target_reclassify_of_not_isMailPath (not_isMailPath_reclassify l first) later⟩
  · obtain ⟨hkind, hurl⟩ | ⟨hkind, hdocument⟩ := reclassify_cases h first
    · exact .inl ⟨hkind, hurl later⟩
    · exact .inr ⟨hkind, hdocument later⟩
  · rw [reclassify_of_mailbox hkind htarget]

end Link

end DocStream

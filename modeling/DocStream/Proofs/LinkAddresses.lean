import DocStream.Proofs.AnchorHeads
import DocStream.Proofs.ClassifiedLinks

/-! What the address of an anchor makes of its link. Reading a body tells a scheme with two slashes
from any other scheme and from none, and reclassifying looks for mail among the rest. Taken together
they leave three kinds of link, and what the address begins with decides between them. -/

namespace DocStream

theorem Reference.afterMailto_eq_some_iff {target address : String} :
    Reference.afterMailto target = some address ↔ target = "mailto:" ++ address := by
  have hdrop (rest : List Char) :
      (mailtoScheme.toList ++ rest).drop mailtoScheme.length = rest := List.drop_left' rfl
  unfold afterMailto
  constructor
  · intro h
    split at h
    next hmail =>
      obtain ⟨rest, hrest⟩ := List.isPrefixOf_iff_prefix.1 hmail
      rw [← hrest, hdrop] at h
      obtain rfl : String.ofList rest = address := Option.some.inj h
      apply String.toList_inj.1
      rw [← hrest, String.toList_append, String.toList_ofList (l := rest)]
      rfl
    next => cases h
  · rintro rfl
    have hmail : ("mailto:" ++ address).toList = mailtoScheme.toList ++ address.toList :=
      String.toList_append
    rw [hmail, hdrop, if_pos (List.isPrefixOf_iff_prefix.2 ⟨address.toList, rfl⟩),
      String.ofList_toList]

namespace Fragment.Html
open DocStream.Html

theorem hasScheme_mailto (address : String) :
    HasScheme ("mailto:" ++ address).toList address.toList :=
  ⟨'m', "ailto".toList, by simp, by decide, by simp⟩

inductive Addressed (attributes : List DocStream.Html.Attribute) (wiki : Bool) (address : String) :
    LinkHead → Prop where
  | url {bare : Bool} (hurl : IsUrl address) (hbare : bare = true ↔ MarkedBare attributes) :
    Addressed attributes wiki address
      ⟨{ kind := .url, target := address, typed := true, parameters := ∅ }, bare⟩
  | mail {bare : Bool} {mailbox : String} {parameters : Dictionary String} (hurl : ¬IsUrl address)
      (hmail : address = "mailto:" ++ mailbox)
      (hparameters : ∀ key, parameters.get? key = otherValue? attributes key)
      (hbare : bare = true ↔ MarkedBare attributes) :
    Addressed attributes wiki address
      ⟨{ kind := .mailto, target := mailbox, typed := true, parameters }, bare⟩
  | untyped (hurl : ¬IsUrl address) (hmail : ∀ mailbox, address ≠ "mailto:" ++ mailbox) :
    Addressed attributes wiki address (.untyped (if wiki then .document else .url) address)

theorem inline_anchor {attributes : List DocStream.Html.Attribute} {h : LinkHead}
    (hlink : linkHead attributes = some h) (children : List Dom) :
    inline (.element "a" attributes children) = [.link h (inlineAll children)] := by
  rw [inline]
  simp only [hlink]
  rfl

theorem addressed_changedHead {attributes : List DocStream.Html.Attribute} {address : String}
    {bare : Bool} {parameters : Dictionary String}
    (hparameters : ∀ key, parameters.get? key = otherValue? attributes key)
    (hbare : bare = true ↔ MarkedBare attributes) (wiki : Bool) :
    Addressed attributes wiki address (Link.changedHead (·.reclassify wiki)
      ⟨{ referenceTo address with parameters }, bare⟩) := by
  by_cases hurl : IsUrl address
  · rw [referenceTo_of_isUrl hurl, Link.changedHead_of_url rfl]
    exact .url hurl hbare
  rw [referenceTo_of_not_isUrl hurl]
  by_cases hmail : ∃ mailbox, address = "mailto:" ++ mailbox
  · obtain ⟨mailbox, hmailbox⟩ := hmail
    have hafter : Reference.afterMailto address = some mailbox :=
      Reference.afterMailto_eq_some_iff.2 hmailbox
    have htyped : (afterScheme address.toList).isSome = true := by
      rw [hmailbox, afterScheme_eq_some_iff.2 (hasScheme_mailto mailbox)]
      rfl
    have hhead : Link.changedHead (·.reclassify wiki)
        ⟨{ kind := .path, target := address, typed := true, parameters }, bare⟩ =
          ⟨{ kind := .mailto, target := mailbox, parameters }, bare⟩ := by
      have hmailto : (LinkClass.mailto != LinkClass.untyped) = true := rfl
      simp [Link.changedHead, Link.reclassify, Reference.reclassify, Reference.linkClass, hafter,
        hmailto]
    rw [htyped, hhead]
    exact .mail hurl hmailbox hparameters hbare
  · have hnone : Reference.afterMailto address = none :=
      Option.eq_none_iff_forall_ne_some.2 fun mailbox h =>
        hmail ⟨mailbox, Reference.afterMailto_eq_some_iff.1 h⟩
    rw [Link.changedHead_of_untyped (by simp [Reference.linkClass, hnone])]
    exact .untyped hurl fun mailbox h => hmail ⟨mailbox, h⟩

theorem anchor_addressed {attributes : List DocStream.Html.Attribute}
    {a : DocStream.Html.Attribute} (ha : attributes.find? (·.name = "href") = some a)
    (wiki : Bool) :
    ∃ h l, linkHead attributes = some h ∧ Addressed attributes wiki a.value l ∧
      (∀ label, (⟨h, label⟩ : Link).reclassify wiki = ⟨l, label⟩) ∧
      ∀ children, (inline (.element "a" attributes children)).reclassify wiki =
        [.link l ((inlineAll children).reclassify wiki)] := by
  have hlink := linkHead_of_address ha
  have hhead : Addressed attributes wiki a.value _ :=
    addressed_changedHead (get?_parameters attributes) (any_isBare_iff attributes) wiki
  refine ⟨_, _, hlink, hhead, fun label => rfl, fun children => ?_⟩
  rw [inline_anchor hlink]
  rfl

theorem anchor_addressed_mail :
    let a : DocStream.Html.Attribute := ⟨"href", "mailto:a@b"⟩
    let attributes : List DocStream.Html.Attribute :=
      [⟨"title", "t"⟩, ⟨"class", "x\tbare "⟩, a, ⟨"title", "u"⟩, ⟨"href", "c://d"⟩]
    let l : LinkHead :=
      { reference :=
          { kind := .mailto, target := "a@b"
            parameters := .ofList [("class", "x\tbare "), ("title", "u")] }
        freeStanding := true }
    attributes.find? (·.name = "href") = some a ∧ Addressed attributes true a.value l ∧
      (inline (.element "a" attributes [.text "e"])).reclassify true = [.link l [.text "e"]] := by
  intro a attributes l
  have ha : attributes.find? (·.name = "href") = some a := rfl
  obtain ⟨h, l', hlink, hhead, hclass, hinline⟩ := anchor_addressed ha true
  let read : LinkHead :=
    ⟨{ kind := .path, target := a.value, parameters := l.reference.parameters }, true⟩
  have hread : linkHead attributes = some read := by decide
  have hchanged : ((⟨read, []⟩ : Link).reclassify true).head = l := by decide
  obtain rfl : l = l' := by
    rw [← hchanged, Option.some.inj (hread.symm.trans hlink), hclass]
  exact ⟨ha, hhead, hinline [.text "e"]⟩

end Fragment.Html

end DocStream

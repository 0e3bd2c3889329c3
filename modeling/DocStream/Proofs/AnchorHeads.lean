import DocStream.Fragment.Html
import DocStream.Proofs.BlankText

/-! What the attributes of an anchor say of its link, without regard to how they are read: what its
address begins with, which values the other attributes leave it, and whether it stands free. -/

namespace DocStream.Fragment.Html
open DocStream.Html

/-! ### Schemes -/

/-- A letter, then letters, digits, `+`, `.` and `-`, and a colon before the rest. -/
def HasScheme (address rest : List Char) : Prop :=
  ∃ c scheme, address = c :: scheme ++ ':' :: rest ∧ c.isAlpha = true ∧
    ∀ d ∈ scheme, d.isAlphanum = true ∨ d ∈ ['+', '.', '-']

def IsUrl (address : String) : Prop := ∃ rest, HasScheme address.toList ('/' :: '/' :: rest)

theorem isSchemeChar_iff {c : Char} :
    isSchemeChar c = true ↔ c.isAlphanum = true ∨ c ∈ ['+', '.', '-'] := by
  simp [isSchemeChar, or_assoc]

theorem isSchemeChar_of_isAlpha {c : Char} (h : c.isAlpha = true) : isSchemeChar c = true := by
  simp [isSchemeChar, Char.isAlphanum, h]

/-- A colon ends every scheme, so an address has one scheme at most. -/
theorem afterScheme_eq_some_iff {address rest : List Char} :
    afterScheme address = some rest ↔ HasScheme address rest := by
  unfold afterScheme
  constructor
  · intro h
    split at h
    next halpha =>
      split at h
      next rest' hdrop =>
        obtain rfl : rest' = rest := Option.some.inj h
        cases address with
        | nil => cases halpha
        | cons c cs =>
          have hc : c.isAlpha = true := halpha
          rw [List.dropWhile_cons_of_pos (isSchemeChar_of_isAlpha hc)] at hdrop
          refine ⟨c, cs.takeWhile isSchemeChar, ?_, hc,
            fun d hd => isSchemeChar_iff.1 (List.mem_takeWhile_imp hd)⟩
          rw [← hdrop, List.cons_append, List.takeWhile_append_dropWhile]
      next => cases h
    next => cases h
  · rintro ⟨c, scheme, rfl, hc, hscheme⟩
    have hall : ∀ d ∈ c :: scheme, isSchemeChar d = true :=
      List.forall_mem_cons.2
        ⟨isSchemeChar_of_isAlpha hc, fun d hd => isSchemeChar_iff.2 (hscheme d hd)⟩
    have hcolon : ¬isSchemeChar ':' = true := by decide
    rw [if_pos (by simpa using hc), List.dropWhile_append_of_pos hall,
      List.dropWhile_cons_of_neg hcolon]
    rfl

theorem referenceTo_of_isUrl {address : String} (h : IsUrl address) :
    referenceTo address = { kind := .url, target := address } := by
  obtain ⟨rest, hrest⟩ := h
  rw [referenceTo, afterScheme_eq_some_iff.2 hrest]
  rfl

theorem referenceTo_of_not_isUrl {address : String} (h : ¬IsUrl address) :
    referenceTo address =
      { kind := .path, target := address, typed := (afterScheme address.toList).isSome } := by
  unfold referenceTo
  split
  next rest hrest => exact absurd ⟨rest, afterScheme_eq_some_iff.1 hrest⟩ h
  next hrest => rw [hrest]; rfl
  next hnone => rw [hnone]; rfl

/-! ### The other attributes -/

/-- The value of an attribute other than the address. Of those with one name the last counts. -/
def otherValue? (attributes : List DocStream.Html.Attribute) (key : String) : Option String :=
  if key = "href" then none else (attributes.reverse.find? (·.name = key)).map (·.value)

def MarkedBare (attributes : List DocStream.Html.Attribute) : Prop :=
  ∃ a ∈ attributes, a.name = "class" ∧ Text.StandsIn Text.isBlank "bare".toList a.value.toList

theorem lookup_pairs (attributes : List DocStream.Html.Attribute) (key : String) :
    (attributes.map fun a => (a.name, a.value)).lookup key =
      (attributes.find? (·.name = key)).map (·.value) := by
  induction attributes with
  | nil => rfl
  | cons a attributes ih =>
    rw [List.map_cons, Dictionary.lookup_cons_if, List.find?_cons, ih]
    by_cases h : a.name = key
    · simp [h]
    · simp [h, Ne.symm h]

theorem get?_parameters (attributes : List DocStream.Html.Attribute) (key : String) :
    (Dictionary.ofList ((attributes.filter (·.name ≠ "href")).map fun a =>
      (a.name, a.value))).get? key = otherValue? attributes key := by
  rw [Dictionary.get?_ofList, ← List.map_reverse, ← List.filter_reverse, lookup_pairs,
    List.find?_filter, otherValue?]
  split
  next h =>
    subst h
    simp
  next h =>
    congr 2
    funext a
    by_cases ha : a.name = key
    · simp [ha, h]
    · simp [ha]

theorem any_isBare_iff (attributes : List DocStream.Html.Attribute) :
    (attributes.filter (·.name ≠ "href")).any isBare = true ↔ MarkedBare attributes := by
  have hword (s : String) :
      "bare" ∈ Text.words s ↔ Text.StandsIn Text.isBlank "bare".toList s.toList := by
    have hall : "bare".toList.all (fun c => !Text.isBlank c) = true := by decide
    have hrun : ∀ c ∈ "bare".toList, Text.isBlank c = false := by
      simpa only [List.all_eq_true, Bool.not_eq_true'] using hall
    rw [Text.mem_words_iff]
    exact ⟨fun h => h.2.2, fun h => ⟨by decide, hrun, h⟩⟩
  have hbare (a : DocStream.Html.Attribute) : isBare a = true ↔
      a.name = "class" ∧ Text.StandsIn Text.isBlank "bare".toList a.value.toList := by
    rw [← hword]
    simp [isBare]
  rw [List.any_filter, List.any_eq_true, MarkedBare]
  refine exists_congr fun a => and_congr_right fun _ => ?_
  rw [Bool.and_eq_true, hbare]
  refine and_iff_right_of_imp fun hclass => ?_
  rw [hclass.1]
  rfl

/-! ### Links -/

section
variable {attributes : List DocStream.Html.Attribute} {h h' : LinkHead}

theorem linkHead_of_address {a : DocStream.Html.Attribute}
    (h : attributes.find? (·.name = "href") = some a) :
    linkHead attributes =
      some
        { reference :=
            { referenceTo a.value with
              parameters := .ofList
                ((attributes.filter (·.name ≠ "href")).map fun a => (a.name, a.value)) }
          freeStanding := (attributes.filter (·.name ≠ "href")).any isBare } := by
  rw [linkHead, h]

structure HeadOf (attributes : List DocStream.Html.Attribute) (h : LinkHead) : Prop where
  address : (attributes.find? (·.name = "href")).map (·.value) = some h.reference.target
  kind : IsUrl h.reference.target ∧ h.reference.kind = .url ∨
    ¬IsUrl h.reference.target ∧ h.reference.kind = .path
  typed : h.reference.typed = true ↔ ∃ rest, HasScheme h.reference.target.toList rest
  parameters : ∀ key, h.reference.parameters.get? key = otherValue? attributes key
  freeStanding : h.freeStanding = true ↔ MarkedBare attributes

theorem isSome_afterScheme_iff {address : List Char} :
    (afterScheme address).isSome = true ↔ ∃ rest, HasScheme address rest := by
  rw [Option.isSome_iff_exists]
  exact exists_congr fun rest => afterScheme_eq_some_iff

theorem headOf_of_linkHead (hlink : linkHead attributes = some h) : HeadOf attributes h := by
  cases ha : attributes.find? (·.name = "href") with
  | none =>
    rw [linkHead, ha] at hlink
    cases hlink
  | some a =>
    rw [linkHead_of_address ha] at hlink
    obtain rfl := Option.some.inj hlink
    have hparameters := get?_parameters attributes
    have hbare := any_isBare_iff attributes
    by_cases hurl : IsUrl a.value
    · have hscheme : ∃ rest, HasScheme a.value.toList rest := hurl.imp' _ fun _ => id
      rw [referenceTo_of_isUrl hurl]
      exact ⟨by rw [ha]; rfl, .inl ⟨hurl, rfl⟩, iff_of_true rfl hscheme, hparameters, hbare⟩
    · rw [referenceTo_of_not_isUrl hurl]
      exact ⟨by rw [ha]; rfl, .inr ⟨hurl, rfl⟩, isSome_afterScheme_iff, hparameters, hbare⟩

theorem HeadOf.eq (hh : HeadOf attributes h) (hh' : HeadOf attributes h') : h = h' := by
  obtain ⟨⟨kind, target, typed, parameters⟩, bare⟩ := h
  obtain ⟨⟨kind', target', typed', parameters'⟩, bare'⟩ := h'
  obtain rfl : target = target' := Option.some.inj (hh.address.symm.trans hh'.address)
  obtain rfl : kind = kind' := by
    obtain ⟨hurl, hkind⟩ | ⟨hurl, hkind⟩ := hh.kind
    · exact hkind.trans (hh'.kind.resolve_right fun h => h.1 hurl).2.symm
    · exact hkind.trans (hh'.kind.resolve_left fun h => hurl h.1).2.symm
  obtain rfl : typed = typed' := Bool.eq_iff_iff.2 (hh.typed.trans hh'.typed.symm)
  obtain rfl : parameters = parameters' :=
    Dictionary.eq_of_get? fun key => (hh.parameters key).trans (hh'.parameters key).symm
  obtain rfl : bare = bare' := Bool.eq_iff_iff.2 (hh.freeStanding.trans hh'.freeStanding.symm)
  rfl

theorem linkHead_eq_some_iff : linkHead attributes = some h ↔ HeadOf attributes h := by
  refine ⟨headOf_of_linkHead, fun hh => ?_⟩
  obtain ⟨a, ha, -⟩ := Option.map_eq_some_iff.1 hh.address
  have hlink := linkHead_of_address ha
  rw [hlink, hh.eq (headOf_of_linkHead hlink)]

end

end DocStream.Fragment.Html

import DocStream.Proofs.FragmentTree
import DocStream.Proofs.LinkMap
import DocStream.Proofs.TwoWalks
import Mathlib.Data.List.Forall2

/-! What wiki mode and the dialect have influence on. Two runs that differ in nothing else fail
alike and agree event by event, but for the dialect at both ends and for the kind of the untyped
links. -/

namespace DocStream

def LinkHead.untyped (kind : ResourceKind) (target : String) : LinkHead where
  reference := { kind, target, typed := false, parameters := ∅ }
  freeStanding := false

/-- Containers of a run without wiki mode and of one with it, each under a dialect of its own. -/
inductive Container.Confined (plain wiki : Dialect) : Container → Container → Prop where
  | same {c : Container} (h : ∀ d, c ≠ .document d) : Confined plain wiki c c
  | document : Confined plain wiki (.document plain) (.document wiki)
  | untyped (target : String) :
    Confined plain wiki (.link (.untyped .url target)) (.link (.untyped .document target))

inductive Event.Confined (plain wiki : Dialect) : Event → Event → Prop where
  | opening {c c' : Container} (h : Container.Confined plain wiki c c') :
    Confined plain wiki (.opening c) (.opening c')
  | closing {c c' : Container} (h : Container.Confined plain wiki c c') :
    Confined plain wiki (.closing c) (.closing c')
  | text (s : String) : Confined plain wiki (.text s) (.text s)
  | lineBreak : Confined plain wiki .lineBreak .lineBreak

namespace Emission

structure Pointwise (S : Event → Event → Prop) (a b : Emission) : Prop where
  failure : a.failure = b.failure
  events : List.Forall₂ S a.events b.events

variable {S : Event → Event → Prop}

theorem pointwise_fail (f : Failure) : Pointwise S (fail f) (fail f) := ⟨rfl, .nil⟩

theorem pointwise_done {es fs : List Event} (h : List.Forall₂ S es fs) :
    Pointwise S (done es) (done fs) := ⟨rfl, h⟩

theorem Pointwise.andThen {a a' b b' : Emission} (ha : Pointwise S a a') (hb : Pointwise S b b') :
    Pointwise S (a.andThen fun _ => b) (a'.andThen fun _ => b') := by
  obtain ⟨es, failure⟩ := a
  obtain ⟨es', failure'⟩ := a'
  obtain ⟨hfailure, hevents⟩ := ha
  obtain rfl : failure = failure' := hfailure
  cases failure with
  | some f => exact ⟨rfl, hevents⟩
  | none => exact ⟨hb.failure, List.rel_append hevents hb.events⟩

theorem blockCongruence_pointwise (h : ∀ e, e.isBlock = true → S e e) :
    BlockCongruence (Pointwise S) where
  done _ hes := pointwise_done (List.forall₂_same.2 fun e he => h e (hes e he))
  andThen := Pointwise.andThen

end Emission

variable {plain wiki : Dialect}

theorem Container.confined_of_isBlock {c : Container} (h : c.isBlock = true) :
    Confined plain wiki c c := by
  refine .same fun d hd => ?_
  rw [hd] at h
  cases h

theorem Event.confined_of_isBlock {e : Event} (h : e.isBlock = true) :
    Confined plain wiki e e := by
  cases e with
  | opening c => exact .opening (Container.confined_of_isBlock h)
  | closing c => exact .closing (Container.confined_of_isBlock h)
  | text s => cases h
  | lineBreak => cases h

/-! ### The links of a text -/

theorem Link.changedHead_of_untyped {h : LinkHead} (hclass : h.reference.linkClass = .untyped)
    (wiki : Bool) :
    Link.changedHead (·.reclassify wiki) h =
      .untyped (if wiki then .document else .url) h.reference.target := by
  simp [Link.changedHead, Link.reclassify, Reference.reclassify, LinkHead.untyped, hclass]

theorem Link.changedHead_of_ne_untyped {h : LinkHead} (hclass : h.reference.linkClass ≠ .untyped) :
    Link.changedHead (·.reclassify true) h = Link.changedHead (·.reclassify false) h := by
  cases hcases : h.reference.linkClass with
  | url => simp [Link.changedHead, Link.reclassify, Reference.reclassify, hcases]
  | mailto => simp [Link.changedHead, Link.reclassify, Reference.reclassify, hcases]
  | untyped => exact absurd hcases hclass

theorem Container.confined_mapHead {c : Container} (h : c.isInline = true) :
    Confined plain wiki (c.mapHead (Link.changedHead (·.reclassify false)))
      (c.mapHead (Link.changedHead (·.reclassify true))) := by
  cases c with
  | link l =>
    by_cases hclass : l.reference.linkClass = .untyped
    · rw [mapHead, mapHead, Link.changedHead_of_untyped hclass, Link.changedHead_of_untyped hclass]
      exact .untyped l.reference.target
    · rw [mapHead, mapHead, Link.changedHead_of_ne_untyped hclass]
      exact .same nofun
  | paragraph => exact .same nofun
  | format s => exact .same nofun
  | document d => cases h
  | sect => cases h
  | header level id => cases h
  | list kind => cases h
  | listItem => cases h

theorem Event.confined_mapHead {e : Event} (h : e.isInline = true) :
    Confined plain wiki (e.mapHead (Link.changedHead (·.reclassify false)))
      (e.mapHead (Link.changedHead (·.reclassify true))) := by
  cases e with
  | opening c => exact .opening (Container.confined_mapHead h)
  | closing c => exact .closing (Container.confined_mapHead h)
  | text s => exact .text s
  | lineBreak => exact .lineBreak

theorem Fragment.confined_events_reclassify (f : Fragment) :
    List.Forall₂ (Event.Confined plain wiki) (f.reclassify false).events
      (f.reclassify true).events := by
  rw [reclassify, reclassify, events_mapLinks, events_mapLinks, List.forall₂_map_left_iff,
    List.forall₂_map_right_iff, List.forall₂_same]
  exact fun e he => Event.confined_mapHead (f.isInline_of_mem_events e he)

/-! ### The walk -/

namespace Walker

theorem pointwise_fragment (inline title : FragmentReader) (maxDepth : Nat)
    (read : FragmentReader) (text : String) (strip : Bool) :
    Emission.Pointwise (Event.Confined plain wiki)
      ((⟨inline, title, false, maxDepth⟩ : Walker).fragment read text strip)
      ((⟨inline, title, true, maxDepth⟩ : Walker).fragment read text strip) := by
  unfold fragment
  cases hread : read text with
  | error e =>
    rw [Fragment.translate_of_error hread, Fragment.translate_of_error hread]
    exact Emission.pointwise_fail _
  | ok f =>
    rw [Fragment.translate_eq_events hread, Fragment.translate_eq_events hread]
    exact Emission.pointwise_done (Fragment.confined_events_reclassify _)

theorem related_of_wiki (inline title : FragmentReader) (maxDepth : Nat) :
    Related (Emission.Pointwise (Event.Confined plain wiki)) ⟨inline, title, false, maxDepth⟩
      ⟨inline, title, true, maxDepth⟩ where
  enter depth := by
    unfold enter
    split
    · exact Emission.pointwise_fail _
    · exact Emission.pointwise_done .nil
  plain := pointwise_fragment inline title maxDepth title
  inline := pointwise_fragment inline title maxDepth inline

end Walker

namespace Translator

/-- Without wiki mode on the left and with it on the right, under any two dialects. -/
theorem run_confined (t : Translator) (dialect : Dialect) (d : Document) :
    (t.run false d.blocks).failure = ({ t with dialect }.run true d.blocks).failure ∧
      List.Forall₂ (Event.Confined t.dialect dialect) (t.run false d.blocks).events
        ({ t with dialect }.run true d.blocks).events := by
  have hR : Emission.BlockCongruence
      (Emission.Pointwise (Event.Confined t.dialect dialect)) :=
    Emission.blockCongruence_pointwise fun _ => Event.confined_of_isBlock
  have hblocks := (Walker.related_of_wiki t.inline t.plain t.maxDepth).walkBlocks hR 1 false
    d.blocks
  have hdocument : Container.Confined t.dialect dialect (.document t.dialect) (.document dialect) :=
    .document
  have hrun := hR.andThen (Emission.pointwise_done (.cons (.opening hdocument) .nil))
    (hR.andThen hblocks (Emission.pointwise_done (.cons (.closing hdocument) .nil)))
  exact ⟨hrun.failure, hrun.events⟩

end Translator

end DocStream

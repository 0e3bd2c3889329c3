import DocStream.Fragment.Html
import DocStream.Fragment.Plain
import DocStream.Proofs.FragmentTree
import DocStream.Proofs.TwoWalks

/-! Runs under wider limits. A run with a higher nesting limit, and with readers that accept more,
emits at least what the narrower one has emitted; where that one succeeds, they are equal. -/

namespace DocStream

def Fragment.Relaxes (p q : FragmentReader) : Prop := ∀ text f, p text = .ok f → q text = .ok f

namespace Emission

/-- The second emission goes at least as far, and no further if the first is complete. -/
def ExtendedBy (a b : Emission) : Prop := (a.failure = none → b = a) ∧ a.events <+: b.events

theorem ExtendedBy.refl (a : Emission) : a.ExtendedBy a := ⟨fun _ => rfl, List.prefix_rfl⟩

theorem fail_extendedBy (f : Failure) (b : Emission) : (fail f).ExtendedBy b :=
  ⟨nofun, List.nil_prefix⟩

theorem prefix_andThen (a : Emission) (b : Unit → Emission) :
    a.events <+: (a.andThen b).events := by
  unfold andThen
  split
  · exact List.prefix_rfl
  · exact List.prefix_append _ _

theorem andThen_of_some {a : Emission} {f : Failure} (h : a.failure = some f)
    (b : Unit → Emission) : a.andThen b = a := by
  obtain ⟨es, failure⟩ := a
  cases h
  rfl

theorem andThen_of_none {a : Emission} (h : a.failure = none) (b : Unit → Emission) :
    a.andThen b = (b ()).onto a.events := by
  rw [andThen, h]
  rfl

theorem ExtendedBy.andThen {a a' b b' : Emission} (ha : a.ExtendedBy a') (hb : b.ExtendedBy b') :
    (a.andThen fun _ => b).ExtendedBy (a'.andThen fun _ => b') := by
  cases h : a.failure with
  | some f =>
    -- The narrower run ends here, so only the prefix is left to show.
    rw [andThen_of_some h]
    refine ⟨fun hnone => ?_, ha.2.trans (prefix_andThen a' _)⟩
    rw [h] at hnone
    cases hnone
  | none =>
    rw [ha.1 h, andThen_of_none h, andThen_of_none h]
    refine ⟨fun hnone => ?_, (List.prefix_append_right_inj a.events).2 hb.2⟩
    rw [hb.1 hnone]

theorem congruence_extendedBy : Congruence ExtendedBy := ⟨fun _ => .refl _, .andThen⟩

end Emission

namespace Walker

theorem enter_extendedBy {w w' : Walker} (h : w.maxDepth ≤ w'.maxDepth) (depth : Nat) :
    (w.enter depth).ExtendedBy (w'.enter depth) := by
  rcases Nat.lt_or_ge w.maxDepth depth with hd | hd
  · rw [w.enter_of_lt hd]
    exact Emission.fail_extendedBy _ _
  · rw [w.enter_of_le hd, w'.enter_of_le (Nat.le_trans hd h)]
    exact .refl _

theorem fragment_extendedBy {w w' : Walker} (hwiki : w'.wiki = w.wiki) {p q : FragmentReader}
    (h : Fragment.Relaxes p q) (text : String) (strip : Bool) :
    (w.fragment p text strip).ExtendedBy (w'.fragment q text strip) := by
  unfold fragment
  rw [hwiki]
  cases hp : p text with
  | error e =>
    rw [Fragment.translate_of_error hp]
    exact Emission.fail_extendedBy _ _
  | ok f =>
    rw [Fragment.translate_congr (hp.trans (h text f hp).symm)]
    exact .refl _

theorem related_of_relaxes {w w' : Walker} (hwiki : w'.wiki = w.wiki)
    (hdepth : w.maxDepth ≤ w'.maxDepth) (hplain : Fragment.Relaxes w.plain w'.plain)
    (hinline : Fragment.Relaxes w.inline w'.inline) : Related Emission.ExtendedBy w w' where
  enter := enter_extendedBy hdepth
  plain := fragment_extendedBy hwiki hplain
  inline := fragment_extendedBy hwiki hinline

end Walker

namespace Fragment

theorem relaxes_html : Relaxes (Html.reader true) (Html.reader false) := by
  intro text f h
  simp only [Html.reader] at h ⊢
  split at h
  · cases h
  · exact h

end Fragment

namespace Translator
open Fragment

theorem run_extendedBy_of_relaxes :
    (∀ (t t' : Translator) (wiki : Bool) (d : Document), t'.dialect = t.dialect →
      t.maxDepth ≤ t'.maxDepth → Relaxes t.inline t'.inline → Relaxes t.plain t'.plain →
      ((t.run wiki d.blocks).failure = none →
        t'.run wiki d.blocks = t.run wiki d.blocks) ∧
      (t.run wiki d.blocks).events <+: (t'.run wiki d.blocks).events) ∧
    Relaxes (Html.reader true) (Html.reader false) := by
  refine ⟨fun t t' wiki d hdialect hdepth hinline hplain => ?_, relaxes_html⟩
  have hR := Emission.congruence_extendedBy
  have hw : Walker.Related Emission.ExtendedBy (t.walker wiki) (t'.walker wiki) :=
    Walker.related_of_relaxes rfl hdepth hplain hinline
  unfold run
  rw [hdialect]
  exact hR.andThen (hR.done _) (hR.andThen (hw.blocks hR 1 false d.blocks) (hR.done _))

theorem run_extendedBy_of_relaxes_refused :
    let read : FragmentReader := fun text =>
      if text = "bad" then .error ⟨text, "refused"⟩ else Plain.reader text
    let t : Translator := { inline := read, plain := Plain.reader, maxDepth := 1 }
    let t' : Translator := { inline := Plain.reader, plain := Plain.reader, maxDepth := 2 }
    let d : Document :=
      { blocks := [.mk (.paragraph "good") [],
          .mk (.paragraph "bad") [.mk (.paragraph "deep") []]] }
    t.maxDepth ≤ t'.maxDepth ∧ Relaxes t.inline t'.inline ∧
      (t.run false d.blocks).failure = some (.fragment ⟨"bad", "refused"⟩) ∧
      (t'.run false d.blocks).failure = none ∧
      (t.run false d.blocks).events <+: (t'.run false d.blocks).events := by
  intro read t t' d
  have hread : Relaxes t.inline t'.inline := by
    intro text f h
    by_cases hbad : text = "bad"
    · simp [t, read, hbad] at h
    · simpa [t, t', read, hbad] using h
  have hdepth : t.maxDepth ≤ t'.maxDepth := by decide
  have hprefix := (run_extendedBy_of_relaxes.1 t t' false d rfl hdepth hread fun _ _ h => h).2
  exact ⟨hdepth, hread, rfl, rfl, hprefix⟩

end Translator

end DocStream

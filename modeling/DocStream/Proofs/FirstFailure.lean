import DocStream.Proofs.Visit

/-! Which failure a translation reports. The blocks are taken in document order, each with its depth
before its text, and the first one that is not accepted decides alone. -/

namespace DocStream

namespace Walker

theorem failsFirst_iff_find? {w : Walker} {vs : List Visit} {v : Visit} {f : Failure} :
    w.FailsFirst vs v f ↔
      vs.find? (fun u => (w.failureAt u).isSome) = some v ∧ w.failureAt v = some f := by
  rw [List.find?_eq_some_iff_append]
  constructor
  · rintro ⟨before, after, rfl, hbefore, hv⟩
    exact ⟨⟨by simp [hv], before, after, rfl, fun u hu => by simp [hbefore u hu]⟩, hv⟩
  · rintro ⟨⟨-, before, after, rfl, hbefore⟩, hv⟩
    exact ⟨before, after, rfl, fun u hu => by simpa using hbefore u hu, hv⟩

theorem FailsFirst.unique {w : Walker} {vs : List Visit} {v u : Visit} {f g : Failure}
    (hv : w.FailsFirst vs v f) (hu : w.FailsFirst vs u g) : v = u ∧ f = g := by
  obtain ⟨hv, hf⟩ := failsFirst_iff_find?.1 hv
  obtain ⟨hu, hg⟩ := failsFirst_iff_find?.1 hu
  obtain rfl : v = u := Option.some.inj (hv.symm.trans hu)
  exact ⟨rfl, Option.some.inj (hf.symm.trans hg)⟩

theorem FailsFirst.not_forall {w : Walker} {vs : List Visit} {v : Visit} {f : Failure}
    (h : w.FailsFirst vs v f) : ¬∀ u ∈ vs, w.failureAt u = none := by
  obtain ⟨before, after, rfl, -, hv⟩ := h
  intro hall
  have hnone := hall v (by simp)
  rw [hv] at hnone
  cases hnone

theorem eq_of_nestingTooDeep {w : Walker} {v : Visit} {depth limit : Nat}
    (h : w.failureAt v = some (.nestingTooDeep depth limit))
    (hdepth : v.above.length ≤ w.maxDepth) :
    depth = v.depth ∧ v.depth = w.maxDepth + 1 ∧ limit = w.maxDepth := by
  rcases Nat.lt_or_ge w.maxDepth v.depth with hdeep | hdeep
  · rw [w.failureAt_of_deep hdeep, Option.some.injEq, Failure.nestingTooDeep.injEq] at h
    exact ⟨h.1.symm, Nat.le_antisymm (Nat.succ_le_succ hdepth) hdeep, h.2.symm⟩
  · rw [w.failureAt_of_le hdeep] at h
    obtain ⟨e, he⟩ := eq_fragment_of_textRefusal h
    cases he

end Walker

namespace Translator

theorem translate_of_run_done {t : Translator} {wiki : Bool} {bs : List Block} {es : List Event}
    (h : t.run wiki bs = .done es) : t.translate wiki bs = .ok es := by
  rw [translate, h]
  rfl

theorem translate_of_run_fail {t : Translator} {wiki : Bool} {bs : List Block} {f : Failure}
    {es : List Event} (h : t.run wiki bs = (Emission.fail f).onto es) :
    t.translate wiki bs = .error f := by
  rw [translate, h]
  rfl

theorem translate_eq_ok_iff {t : Translator} {wiki : Bool} {d : Document} :
    (∃ es, t.translate wiki d.blocks = .ok es) ↔
      ∀ v ∈ d.visits, (t.walker wiki).failureAt v = none := by
  obtain ⟨hall, hrun⟩ | ⟨v, f, hv, -, hrun⟩ := t.run_cases wiki d
  · exact ⟨fun _ => hall, fun _ => ⟨_, translate_of_run_done hrun⟩⟩
  · simp [translate_of_run_fail hrun, hv.not_forall]

theorem translate_eq_error_iff {t : Translator} {wiki : Bool} {d : Document} {f : Failure} :
    t.translate wiki d.blocks = .error f ↔ ∃ v, (t.walker wiki).FailsFirst d.visits v f := by
  obtain ⟨hall, hrun⟩ | ⟨u, g, hu, -, hrun⟩ := t.run_cases wiki d
  · simp only [translate_of_run_done hrun, reduceCtorEq, false_iff]
    rintro ⟨v, hv⟩
    exact hv.not_forall hall
  · simp only [translate_of_run_fail hrun, Except.error.injEq]
    constructor
    · rintro rfl
      exact ⟨u, hu⟩
    · rintro ⟨v, hv⟩
      exact (hu.unique hv).2

theorem length_above_le {t : Translator} {wiki : Bool} {d : Document} {v : Visit} {f : Failure}
    (h : (t.walker wiki).FailsFirst d.visits v f) : v.above.length ≤ t.maxDepth := by
  obtain ⟨hall, -⟩ | ⟨u, g, hu, hdepth, -⟩ := t.run_cases wiki d
  · exact absurd hall h.not_forall
  · exact (hu.unique h).1 ▸ hdepth

/-- The last part says that nothing behind the failing block matters: any other translation that
meets the same blocks up to there, and judges them alike, reports the same. -/
theorem translate_reports_first (t : Translator) (wiki : Bool) (d : Document) :
    ((∃ es, t.translate wiki d.blocks = .ok es) ↔
      ∀ v ∈ d.visits, (t.walker wiki).failureAt v = none) ∧
    (∀ f, t.translate wiki d.blocks = .error f ↔
      ∃ v, (t.walker wiki).FailsFirst d.visits v f) ∧
    (∀ v depth limit, (t.walker wiki).FailsFirst d.visits v (.nestingTooDeep depth limit) →
      depth = v.depth ∧ v.depth = t.maxDepth + 1 ∧ limit = t.maxDepth) ∧
    ∀ before v after f, d.visits = before ++ v :: after →
      (∀ u ∈ before, (t.walker wiki).failureAt u = none) →
      (t.walker wiki).failureAt v = some f →
      ∀ (t' : Translator) (wiki' : Bool) (d' : Document) (after' : List Visit),
        d'.visits = before ++ v :: after' →
        (∀ u ∈ before ++ [v], (t'.walker wiki').failureAt u = (t.walker wiki).failureAt u) →
        t'.translate wiki' d'.blocks = .error f := by
  refine ⟨translate_eq_ok_iff, fun f => translate_eq_error_iff, ?_, ?_⟩
  · intro v depth limit h
    exact Walker.eq_of_nestingTooDeep (Walker.failsFirst_iff_find?.1 h).2 (length_above_le h)
  · intro before v after f _ hbefore hv t' wiki' d' after' hd' hsame
    refine translate_eq_error_iff.2 ⟨v, before, after', hd', fun u hu => ?_, ?_⟩
    · rw [hsame u (by simp [hu]), hbefore u hu]
    · rw [hsame v (by simp), hv]

theorem translate_reports_first_refused :
    let read : FragmentReader := fun text =>
      if text = "bad" then .error ⟨text, "refused"⟩ else .ok []
    let t : Translator := { inline := read, plain := read, maxDepth := 2 }
    let d : Document :=
      { blocks := [.mk (.paragraph "good") [],
          .mk (.other "open") [.mk (.paragraph "bad") [.mk (.paragraph "too deep") []]]] }
    let d' : Document :=
      { blocks := [.mk (.paragraph "good") [],
          .mk (.other "open") [.mk (.paragraph "bad") []], .mk (.paragraph "bad") []] }
    t.translate false d.blocks = .error (.fragment ⟨"bad", "refused"⟩) ∧
      { t with maxDepth := 7 }.translate true d'.blocks =
        .error (.fragment ⟨"bad", "refused"⟩) := by
  intro read t d d'
  let first : Visit := ⟨⟨[], .paragraph "good"⟩, []⟩
  let around : Visit := ⟨⟨[.mk (.paragraph "good") []], .other "open"⟩, []⟩
  let bad : Visit := ⟨⟨[], .paragraph "bad"⟩, [around.toRung]⟩
  have hbefore : ∀ u ∈ [first, around], (t.walker false).failureAt u = none := by
    simp only [List.forall_mem_cons]
    exact ⟨rfl, rfl, nofun⟩
  obtain ⟨-, herror, -, hlocal⟩ := translate_reports_first t false d
  refine ⟨(herror _).2 ⟨bad, [first, around], _, rfl, hbefore, rfl⟩, ?_⟩
  refine hlocal [first, around] bad _ _ rfl hbefore rfl { t with maxDepth := 7 } true d' _ rfl ?_
  simp only [List.cons_append, List.nil_append, List.forall_mem_cons]
  exact ⟨rfl, rfl, rfl, nofun⟩

end Translator

end DocStream

import DocStream.Fragment.Plain
import DocStream.Proofs.Visit

/-! The meaning of a document: whatever stands in the stream already, a run that succeeds adds one
balanced stream to it, and that stream is read back as the image of the document. -/

namespace DocStream.Translator

theorem run_of_success {t : Translator} {wiki : Bool} {d : Document}
    (h : (t.run wiki d.blocks).failure = none) :
    t.run wiki d.blocks = .done (Tree.container (.document t.dialect)
      ((t.walker wiki).blocksTrees false d.blocks)).flatten := by
  obtain ⟨-, hrun⟩ | ⟨v, f, -, -, hrun⟩ := t.run_cases wiki d
  · exact hrun
  · rw [hrun] at h
    cases h

theorem ofEvents_runOnto (t : Translator) (wiki : Bool) (d : Document) (stream : List Event)
    (h : (t.runOnto wiki d.blocks stream).failure = none) :
    ∃ es, (t.runOnto wiki d.blocks stream).events = stream ++ es ∧
      Forest.ofEvents es = .ok [.container (.document t.dialect)
        ((t.walker wiki).blocksTrees false d.blocks)] := by
  let root : Tree := .container (.document t.dialect) ((t.walker wiki).blocksTrees false d.blocks)
  have hroot : Tree.AllWellFormed [root] := by
    simpa [root] using (t.walker wiki).allWellFormed_blocksTrees false d.blocks
  have hrun : t.run wiki d.blocks = .done root.flatten := run_of_success h
  refine ⟨Tree.flattenAll [root], ?_, Forest.ofEvents_flattenAll hroot⟩
  rw [runOnto, hrun, Tree.flattenAll_cons, Tree.flattenAll_nil, List.append_nil]
  rfl

theorem ofEvents_runOnto_section :
    let t : Translator := { inline := Fragment.Plain.reader, plain := Fragment.Plain.reader }
    let d : Document :=
      { blocks := [.mk (.sect 2 none "T") [.mk (.list "olist")
          [.mk (.listItem "a") [], .mk (.other "open") [.mk (.listItem "b") []]]]] }
    (t.runOnto false d.blocks [.lineBreak]).failure = none ∧
      ∃ es, (t.runOnto false d.blocks [.lineBreak]).events = .lineBreak :: es ∧
        Forest.ofEvents es = .ok [.container (.document .asciiDoc) [.container .sect
          [.container .sect [.container (.header 2 none) [.leaf (.text "T")],
            .container (.list .ordered) [.container .listItem [.leaf (.text "a")]]]]]] :=
  ⟨rfl, ofEvents_runOnto _ false _ [.lineBreak] rfl⟩

end DocStream.Translator

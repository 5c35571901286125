import InterfaceStub.Proofs.RequiredLines

/-!
# The states of the writer

The writer indents with the first text of a line, so what it writes depends on its depth and on
whether a line has just begun.  In a stub both are known between any two declarations: the depth is
zero and a line has just begun.  The one level of a class is entered after its header and left after
its last member, so it is never left at depth zero.

`ModuleStub.writerAfter` is the writer after some of the declarations, and
`ModuleStub.writerAfter_eq` says what it holds.  `render_refines_lines` is the result: the writer,
with its state, prints the lines that `StubLines` gives without one.
-/

namespace InterfaceStub

open Writer

/-- The writer at depth zero with these lines written. -/
def Writer.atRest (lines : List String) : Writer :=
  ⟨joinLines lines, 0, true⟩

theorem Writer.putLines_atRest (first second : List String) :
    putLines second (atRest first) = atRest (first ++ second) := by
  rw [atRest, putLines_depth_zero, ← joinLines_append, atRest]

namespace ModuleStub

variable (stub : ModuleStub) (missing : List (String × List String))

/-- The empty line stands where there are both imports and declarations. -/
theorem frontLines_eq_importLines :
    stub.frontLines missing = stub.importLines missing ++
      if stub.importLines missing ≠ [] ∧ stub.content ≠ [] then [""] else [] := by
  have himports : (stub.importsAnything || !missing.isEmpty) = true ↔
      stub.importLines missing ≠ [] := by
    simp [importsAnything, importLines, Decidable.imp_iff_not_or, or_assoc]
  have hboth : ((stub.importsAnything || !missing.isEmpty) && !stub.content.isEmpty) = true ↔
      stub.importLines missing ≠ [] ∧ stub.content ≠ [] := by
    rw [Bool.and_eq_true, himports]
    simp
  simp only [frontLines, hboth]

/-- The writer after the imports of a module and some declarations. -/
def writerAfter (declared : List Declaration) : Writer :=
  each Declaration.write declared (stub.writeFront missing {})

/-- Between declarations the writer is at rest. -/
theorem writerAfter_eq (declared : List Declaration) :
    stub.writerAfter missing declared =
      atRest (stub.frontLines missing ++ declared.flatMap Declaration.lines) := by
  have hempty : ({} : Writer) = atRest [] := by simp [atRest]
  rw [writerAfter, writeFront_eq_putLines, each_eq_putLines Declaration.write_eq_putLines, hempty,
    putLines_atRest, putLines_atRest, List.nil_append]

end ModuleStub

/-- The text of a stub is printed by lines: one for each import and each group of required names, an
empty one where declarations follow, and those of the declarations.  After each declaration the
writer is at depth zero and at the start of a line.  The body of a class ends at depth one, where
the level is left. -/
theorem Extraction.render_refines_lines (extraction : Extraction) (generate : GenerateSettings) :
    let stub := extraction.stub
    let groups := extraction.written generate
    let imports := stub.imports.map Import.line ++ stub.importFroms.map ImportFrom.line ++
      groups.map requiredLine
    let front := imports ++ if imports ≠ [] ∧ stub.content ≠ [] then [""] else []
    extraction.render generate =
      joinLines (front ++ stub.content.flatMap Declaration.lines) ∧
    extraction.render generate = (stub.writerAfter groups stub.content).output ∧
    (∀ before after, stub.content = before ++ after →
      stub.writerAfter groups before =
        ⟨joinLines (front ++ before.flatMap Declaration.lines), 0, true⟩) ∧
    ∀ before cls after, stub.content = before ++ .classStub cls :: after → cls.body ≠ [] →
      cls.write (stub.writerAfter groups before) =
        dedent (cls.writeBody (stub.writerAfter groups before)) ∧
      cls.writeBody (stub.writerAfter groups before) =
        ⟨joinLines (front ++ before.flatMap Declaration.lines ++ cls.lines), 1, true⟩ := by
  intro stub groups imports front
  have hfront : stub.frontLines groups = front := stub.frontLines_eq_importLines groups
  have hafter (declared : List Declaration) : stub.writerAfter groups declared =
      atRest (front ++ declared.flatMap Declaration.lines) := by
    rw [stub.writerAfter_eq, hfront]
  have hrender : extraction.render generate = (stub.writerAfter groups stub.content).output := rfl
  refine ⟨?_, hrender, ?_, ?_⟩
  · rw [hrender, hafter, atRest]
  · intro before after hcontent
    exact hafter before
  · intro before cls after hcontent hbody
    refine ⟨cls.write_eq_dedent hbody _, ?_⟩
    rw [cls.writeBody_eq_indent hbody, hafter, putLines_atRest]
    rfl

end InterfaceStub

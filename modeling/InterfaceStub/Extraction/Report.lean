import InterfaceStub.Extraction.Problem
import InterfaceStub.Stub.Required

/-!
# Reports

A `Report` is a value together with what came up while it was made: the findings, in order, and the
names of `typing` that the value relies on.  Reports in sequence put the findings one after the
other; nothing that came up before can change a later value.
-/

namespace InterfaceStub.Extraction

open Syntax

/-- A value, and what came up while it was made. -/
structure Report (α : Type u) where
  value : α
  findings : List Finding := []
  required : List TypingName := []

namespace Report

/-- One report and then another, made from the value of the first. -/
protected def bind (report : Report α) (next : α → Report β) : Report β :=
  let after := next report.value
  ⟨after.value, report.findings ++ after.findings, report.required ++ after.required⟩

instance : Monad Report where
  pure value := ⟨value, [], []⟩
  bind := Report.bind

@[simp] theorem value_pure (value : α) : (pure value : Report α).value = value := rfl

@[simp] theorem findings_pure (value : α) : (pure value : Report α).findings = [] := rfl

@[simp] theorem required_pure (value : α) : (pure value : Report α).required = [] := rfl

@[simp] theorem value_bind (report : Report α) (next : α → Report β) :
    (report >>= next).value = (next report.value).value := rfl

@[simp] theorem findings_bind (report : Report α) (next : α → Report β) :
    (report >>= next).findings = report.findings ++ (next report.value).findings := rfl

@[simp] theorem required_bind (report : Report α) (next : α → Report β) :
    (report >>= next).required = report.required ++ (next report.value).required := rfl

@[simp] theorem value_map (f : α → β) (report : Report α) : (f <$> report).value = f report.value :=
  rfl

@[simp] theorem findings_map (f : α → β) (report : Report α) :
    (f <$> report).findings = report.findings := by
  simp [Functor.map, Report.bind]

@[simp] theorem required_map (f : α → β) (report : Report α) :
    (f <$> report).required = report.required := by
  simp [Functor.map, Report.bind]

/-- Reports one after the other. -/
def gather (reports : List (Report α)) : Report (List α) where
  value := reports.map value
  findings := reports.flatMap findings
  required := reports.flatMap required

/-- Reports of lists one after the other, the lists joined. -/
def gatherAll (reports : List (Report (List α))) : Report (List α) :=
  List.flatten <$> gather reports

end Report

/-- Reports a problem at a node. -/
def flag (source : Source) (node : Node) (problem : Problem) : Report Unit :=
  ⟨(), [⟨source.line node, problem⟩], []⟩

/-- Relies on some names of `typing`. -/
def relyOn (names : List TypingName) : Report Unit :=
  ⟨(), [], names⟩

end InterfaceStub.Extraction

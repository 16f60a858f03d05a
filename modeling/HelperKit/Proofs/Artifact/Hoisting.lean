import HelperKit.Proofs.Artifact.Rendering

/-!
# Imports come first

No line of a body imports anything: the lines of payloads that do are taken out, and neither
putting the rest together nor stripping it makes a new one, as long as all payloads end their
last lines.  The import lines of the merged file are thus those in front, each of them as it
stands in its payload.
-/

namespace HelperKit

namespace Merge

variable {line : Text} {block : List Text} {payloads : List Text} {runtime : Runtime}

@[simp]
theorem isImport_stripStart (line : Text) : isImport line.stripStart = isImport line := by
  rw [isImport, Text.strip_stripStart, isImport]

@[simp]
theorem isImport_stripEnd (line : Text) : isImport line.stripEnd = isImport line := by
  rw [isImport, Text.strip_stripEnd, isImport]

/-- The lines of a block, an empty line, and the pieces of the body. -/
theorem lines_assemble (whole : ∀ line ∈ block, .char '\n' ∉ line) (body : Text) :
    (assemble block body).lines =
      block ++ if block = [] then body.lines else [] :: body.lines := by
  unfold assemble
  by_cases empty : block = []
  · rw [if_pos empty, if_pos empty, empty, List.nil_append]
  · have text : Text.unlines block ++ "\n\n" ++ body = Text.ended (block ++ [[]]) ++ body := by
      have twice : Text.ofString "\n\n" = [.char '\n'] ++ [.char '\n'] := rfl
      rw [twice, ← List.append_assoc, Text.unlines_append_newline empty]
      simp [Text.ended]
    have all : ∀ line ∈ block ++ [[]], .char '\n' ∉ line :=
      List.forall_mem_append.mpr ⟨whole, by simp⟩
    rw [if_neg empty, if_neg empty, text, Text.lines_ended_append all, List.append_assoc]
    rfl

/-- The import lines are those of the block, if the body has none. -/
theorem filter_lines_assemble {body : Text} (whole : ∀ line ∈ block, .char '\n' ∉ line)
    (imports : ∀ line ∈ block, isImport line = true)
    (code : ∀ line ∈ body.lines, isImport line = false) :
    (assemble block body).lines.filter isImport = block := by
  have head : block.filter isImport = block := List.filter_eq_self.mpr imports
  have tail : body.lines.filter isImport = [] :=
    List.filter_eq_nil_iff.mpr fun line member => by simp [code line member]
  have blank : isImport [] = false := rfl
  rw [lines_assemble whole, List.filter_append, head]
  split
  · rw [tail, List.append_nil]
  · rw [List.filter_cons_of_neg (by simp [blank]), tail, List.append_nil]

/-- The imports at the head are lines of payloads, in order. -/
theorem importBlock_eq (runtime : Runtime) (payloads : List Text) :
    importBlock runtime payloads = (payloads.flatMap Text.lines).filter fun line =>
      isImport line && !isLocal line && (runtime = .deno || !isRemote line) := by
  have collected : payloads.flatMap imports = (payloads.flatMap Text.lines).filter isImport := by
    rw [List.filter_flatMap]
    rfl
  rw [importBlock, collected, List.filter_filter]
  refine List.filter_congr fun line _ => ?_
  unfold isKept
  cases isImport line <;> cases isLocal line <;> simp

/-- No line of a body imports anything. -/
theorem isImport_of_mem_body (isEnded : ∀ payload ∈ payloads, payload.IsEnded)
    (member : line ∈ (bodies payloads).strip.lines) : isImport line = false := by
  have code : ∀ line ∈ payloads.flatMap codeRows, isImport line = false := by
    intro line found
    obtain ⟨payload, -, row⟩ := List.mem_flatMap.mp found
    simpa using (List.mem_filter.mp row).2
  rcases Text.mem_rows_of_mem_lines member with row | rfl
  · rw [rows_strip_bodies fun payload front => isEnded payload (List.mem_of_mem_dropLast front)]
      at row
    exact Text.forall_mem_trimmed (fun line none => (isImport_stripStart line).trans none)
      (fun line none => (isImport_stripEnd line).trans none) code line row
  · rfl

end Merge

namespace Site

/-- If all payloads end their last lines, the import lines of the merged file are exactly its
first lines: those of the payloads, in order, each as it stands there, without the local ones
and under other runtimes than Deno without the remote ones.  If there are any, one empty line
comes before the body, which does not begin with a blank. -/
theorem render_hoists_imports (site : Site) (project : Project) (before : Workspace)
    (texts : Feature → Text)
    (given : ∀ feature ∈ project.mergedFeatures,
      feature.given site.templates before = .ok (texts feature))
    (isEnded : ∀ feature ∈ project.mergedFeatures, (texts feature).IsEnded) :
    let payloads := project.mergedFeatures.map texts
    let block := (payloads.flatMap Text.lines).filter fun line =>
      Merge.isImport line && !Merge.isLocal line &&
        (project.runtime = .deno || !Merge.isRemote line)
    ∃ text body : Text, (site.render project before).1 = .ok text ∧
      text.lines.filter Merge.isImport = block ∧
      text.lines = block ++ (if block = [] then body.lines else [] :: body.lines) ∧
      text = Merge.assemble block body ∧
      body.rows = Text.trimmed (payloads.flatMap Merge.codeRows) ∧
      (∀ point ∈ body.head?, point.isBlank = false) ∧
      (∀ line ∈ body.lines, Merge.isImport line = false) ∧
      ∀ line ∈ text.lines, Merge.isImport line = true →
        Merge.isLocal line = false ∧ (project.runtime ≠ .deno → Merge.isRemote line = false) := by
  intro payloads block
  have allEnded : ∀ payload ∈ payloads, payload.IsEnded := List.forall_mem_map.mpr isEnded
  have rendered : (site.render project before).1 =
      .ok (Merge.assemble block (Merge.bodies payloads).strip) := by
    rw [render_result, Feature.mapM_given given]
    change Except.ok (Merge.render project.runtime payloads) = _
    rw [Merge.render_eq_assemble, Merge.importBlock_eq]
  have whole : ∀ line ∈ block, .char '\n' ∉ line := by
    intro line member
    obtain ⟨payload, -, piece⟩ := List.mem_flatMap.mp (List.mem_filter.mp member).1
    exact Text.notMem_of_mem_lines piece
  have kept : ∀ line ∈ block, (Merge.isImport line = true ∧ Merge.isLocal line = false) ∧
      (project.runtime = .deno ∨ Merge.isRemote line = false) := by
    intro line member
    simpa only [Bool.and_eq_true, Bool.or_eq_true, Bool.not_eq_true', decide_eq_true_eq] using
      (List.mem_filter.mp member).2
  have code : ∀ line ∈ (Merge.bodies payloads).strip.lines, Merge.isImport line = false :=
    fun line member => Merge.isImport_of_mem_body allEnded member
  have imports := Merge.filter_lines_assemble whole (fun line member => (kept line member).1.1) code
  refine ⟨_, (Merge.bodies payloads).strip, rendered, imports, Merge.lines_assemble whole _, rfl,
    Merge.rows_strip_bodies fun payload front =>
      allEnded payload (List.mem_of_mem_dropLast front),
    Text.head_strip _, code, fun line member isImport => ?_⟩
  have hoisted : line ∈ block := imports ▸ List.mem_filter.mpr ⟨member, isImport⟩
  exact ⟨(kept line hoisted).1.2, fun other => (kept line hoisted).2.resolve_left other⟩

/-- A payload with imports of all kinds, and one whose code holds a blank line. -/
theorem render_hoists_imports_pair :
    let site : Site := ⟨.standard, .directory (.ofText "tpl")⟩
    let before := Workspace.on
      (templateDisk "import a\n\timport \"./b\"\ncore()\n" " import http:c\n\n option()\n") .warning
    ∃ text body : Text, (site.render mergedPair before).1 = .ok text ∧
      text.lines =
        [Text.ofString "import a", Text.ofString " import http:c", []] ++ body.lines ∧
      body.rows = [Text.ofString "core()", [], Text.ofString " option()"] := by
  intro site before
  let texts : Feature → Text := fun feature =>
    if feature = .core then "import a\n\timport \"./b\"\ncore()\n" else " import http:c\n\n option()\n"
  have given : ∀ feature ∈ mergedPair.mergedFeatures,
      feature.given site.templates before = .ok (texts feature) := by decide +kernel
  have isEnded : ∀ feature ∈ mergedPair.mergedFeatures, (texts feature).IsEnded := by
    unfold Text.IsEnded
    decide +kernel
  obtain ⟨text, body, rendered, -, lines, -, rows, -⟩ :=
    render_hoists_imports site mergedPair before texts given isEnded
  have hoisted : ((mergedPair.mergedFeatures.map texts).flatMap Text.lines).filter (fun line =>
      Merge.isImport line && !Merge.isLocal line &&
        (mergedPair.runtime = .deno || !Merge.isRemote line)) =
      [Text.ofString "import a", Text.ofString " import http:c"] := by decide +kernel
  have code : Text.trimmed ((mergedPair.mergedFeatures.map texts).flatMap Merge.codeRows) =
      [Text.ofString "core()", [], Text.ofString " option()"] := by decide +kernel
  rw [hoisted] at lines
  exact ⟨text, body, rendered, lines, rows.trans code⟩

end Site

end HelperKit

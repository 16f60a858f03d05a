import HelperKit.Proofs.Artifact.Payload
import HelperKit.Proofs.Text.Lines

/-!
# Lines of the merged file

Payloads are cut into lines, and what is left of each is put together again before the payloads
are.  A payload whose last line is ended leaves an empty piece there, which ends its last line
in the merged file, too.  Without it that line and the first one of the next payload are one.
-/

namespace HelperKit

namespace Text

variable {lines : List Text}

/-- An empty piece behind the last line makes no difference to lines that are trimmed. -/
theorem trimmed_append {tail : List Text} (few : tail = [] ∨ tail = [[]]) :
    trimmed (lines ++ tail) = trimmed lines := by
  rcases few with rfl | rfl
  · rw [List.append_nil]
  · unfold trimmed
    rw [List.dropWhile_append]
    cases lines.dropWhile isBlank with
    | nil => rfl
    | cons line rest =>
        have behind : ((line :: rest) ++ [[]]).modifyHead stripStart =
            (line :: rest).modifyHead stripStart ++ [[]] := rfl
        have blank : isBlank [] = true := rfl
        rw [if_neg (by simp), behind, List.rdropWhile_concat_pos _ _ _ blank]

end Text

namespace Merge

variable {payload : Text} {payloads : List Text}

/-- The lines of a payload that import nothing. -/
def codeRows (payload : Text) : List Text :=
  payload.rows.filter fun line => !isImport line

theorem notMem_of_mem_codeRows {line : Text} (member : line ∈ codeRows payload) :
    .char '\n' ∉ line :=
  Text.notMem_of_mem_rows (List.mem_filter.mp member).1

theorem kept_eq_codeRows_append (payload : Text) : ∃ tail, (tail = [] ∨ tail = [[]]) ∧
    (payload.lines.filter fun line => !isImport line) = codeRows payload ++ tail := by
  obtain ⟨tail, few, known⟩ := Text.lines_eq_rows_append payload
  refine ⟨tail, few, ?_⟩
  have kept : (tail.filter fun line => !isImport line) = tail := by
    rcases few with rfl | rfl <;> rfl
  rw [known, List.filter_append, kept, codeRows]

theorem body_of_isEnded (isEnded : payload.IsEnded) : body payload = Text.ended (codeRows payload) := by
  have kept : (payload.lines.filter fun line => !isImport line) = codeRows payload ++ [[]] := by
    rw [Text.lines_of_isEnded isEnded, List.filter_append, codeRows]
    rfl
  rw [body, kept, Text.unlines_concat, List.append_nil]

/-- The lines of the last payload need not be ended. -/
theorem trimmed_rows_body (lines : List Text) (payload : Text) :
    Text.trimmed (lines ++ (body payload).rows) = Text.trimmed (lines ++ codeRows payload) := by
  obtain ⟨behind, fewBehind, kept⟩ := kept_eq_codeRows_append payload
  have whole : ∀ line ∈ codeRows payload ++ behind, .char '\n' ∉ line := by
    intro line member
    rcases List.mem_append.mp member with code | last
    · exact notMem_of_mem_codeRows code
    · rcases fewBehind with rfl | rfl
      · simp at last
      · simp [List.mem_singleton.mp last]
  obtain ⟨tail, few, known⟩ := Text.eq_rows_unlines_append whole
  calc Text.trimmed (lines ++ (body payload).rows)
      = Text.trimmed (lines ++ ((body payload).rows ++ tail)) := by
        rw [← List.append_assoc, Text.trimmed_append few]
    _ = Text.trimmed (lines ++ (codeRows payload ++ behind)) := by rw [body, kept, ← known]
    _ = Text.trimmed (lines ++ codeRows payload) := by
        rw [← List.append_assoc, Text.trimmed_append fewBehind]

/-- What is merged of payloads, all but the last of which end their last lines. -/
theorem rows_strip_bodies (isEnded : ∀ payload ∈ payloads.dropLast, payload.IsEnded) :
    (bodies payloads).strip.rows = Text.trimmed (payloads.flatMap codeRows) := by
  rw [Text.rows_strip]
  induction payloads using List.reverseRecOn with
  | nil => rfl
  | append_singleton payloads last =>
      rw [List.dropLast_concat] at isEnded
      have front : bodies payloads = Text.ended (payloads.flatMap codeRows) := by
        unfold bodies Text.ended
        rw [List.flatMap_assoc]
        exact List.flatMap_congr fun payload member => body_of_isEnded (isEnded payload member)
      have whole : ∀ line ∈ payloads.flatMap codeRows, .char '\n' ∉ line := by
        intro line member
        obtain ⟨payload, -, code⟩ := List.mem_flatMap.mp member
        exact notMem_of_mem_codeRows code
      have merged : bodies (payloads ++ [last]) =
          Text.ended (payloads.flatMap codeRows) ++ body last := by
        rw [← front]
        simp [bodies]
      rw [merged, Text.rows_ended_append whole, List.flatMap_append, List.flatMap_singleton,
        trimmed_rows_body]

end Merge

namespace Site

/-- Merging keeps every line of code whole, if all payloads but the last end their last lines:
read line by line, what comes after the imports is exactly the lines of the payloads that import
nothing, in order, trimmed at the two ends. -/
theorem render_keeps_lines (site : Site) (project : Project) (before after : Workspace)
    (payloads : List Text)
    (read : project.mergedFeatures.mapM (Feature.payload site.templates) before =
      (.ok payloads, after))
    (isEnded : ∀ payload ∈ payloads.dropLast, payload.IsEnded) :
    ∃ body, site.render project before =
        (.ok (Merge.header (Merge.importBlock project.runtime payloads) ++ body), after) ∧
      body.rows = Text.trimmed (payloads.flatMap Merge.codeRows) := by
  refine ⟨(Merge.bodies payloads).strip, ?_, Merge.rows_strip_bodies isEnded⟩
  exact Attempt.bind_eq_ok_iff.mpr ⟨payloads, after, read, rfl⟩

/-- A disk with a folder of templates for two features. -/
def templateDisk (core option : Text) : Disk where
  entries location :=
    if location = [] ∨ location = [Text.ofString "tpl"] then some .directory
    else if location = [Text.ofString "tpl", Text.ofString "core.ts"] then core.encode?.map .file
    else if location = [Text.ofString "tpl", Text.ofString "option.ts"] then
      option.encode?.map .file
    else none
  home := []

/-- A project whose two features are merged. -/
def mergedPair : Project :=
  ⟨.deno, ".", .custom [.core, .option] (by decide) (by decide), .singleFile⟩

theorem exists_eq_mk {α β : Type} {pair : α × β} {first : α} (known : pair.1 = first) :
    ∃ second, pair = (first, second) :=
  ⟨pair.2, Prod.ext known rfl⟩

/-- The first payload ends its last line, the second one does not. -/
theorem render_keeps_lines_pair :
    let site : Site := ⟨.standard, .directory (.ofText "tpl")⟩
    let before := Workspace.on (templateDisk "a\nimport x\nb\n" "c\n d") .warning
    let payloads : List Text := [Text.ofString "a\nimport x\nb\n", Text.ofString "c\n d"]
    ∃ body after, site.render mergedPair before =
        (.ok (Merge.header (Merge.importBlock .deno payloads) ++ body), after) ∧
      body.rows = [Text.ofString "a", Text.ofString "b", Text.ofString "c", Text.ofString " d"] := by
  intro site before payloads
  have texts : (mergedPair.mergedFeatures.mapM (Feature.payload site.templates) before).1 =
      .ok payloads := by decide +kernel
  have ended : ∀ payload ∈ payloads.dropLast, payload.IsEnded := by
    intro payload member
    rw [List.mem_singleton.mp member]
    unfold Text.IsEnded
    decide
  have lines : Text.trimmed (payloads.flatMap Merge.codeRows) =
      [Text.ofString "a", Text.ofString "b", Text.ofString "c", Text.ofString " d"] := by
    decide +kernel
  obtain ⟨after, read⟩ := exists_eq_mk texts
  obtain ⟨body, rendered, rows⟩ := render_keeps_lines site mergedPair before after payloads
    read ended
  exact ⟨body, after, rendered, rows.trans lines⟩

/-- A comment that no line feed ends swallows the first line of the next payload. -/
theorem unended_line_joined :
    let site : Site := ⟨.standard, .directory (.ofText "tpl")⟩
    let before := Workspace.on (templateDisk "// core" "option();\n") .warning
    ∃ payloads after,
      mergedPair.mergedFeatures.mapM (Feature.payload site.templates) before =
        (.ok payloads, after) ∧
      ¬ ∃ body, site.render mergedPair before =
          (.ok (Merge.header (Merge.importBlock .deno payloads) ++ body), after) ∧
        body.rows = Text.trimmed (payloads.flatMap Merge.codeRows) := by
  intro site before
  have texts : (mergedPair.mergedFeatures.mapM (Feature.payload site.templates) before).1 =
      .ok [Text.ofString "// core", Text.ofString "option();\n"] := by decide +kernel
  obtain ⟨after, read⟩ := exists_eq_mk texts
  refine ⟨_, after, read, ?_⟩
  rintro ⟨body, rendered, rows⟩
  have whole : site.render mergedPair before =
      (.ok (Merge.render mergedPair.runtime
        [Text.ofString "// core", Text.ofString "option();\n"]), after) :=
    Attempt.bind_eq_ok_iff.mpr ⟨_, after, read, rfl⟩
  have same := List.append_cancel_left (Except.ok.inj (congrArg Prod.fst (rendered.symm.trans whole)))
  rw [same] at rows
  have differ : (Merge.bodies [Text.ofString "// core", Text.ofString "option();\n"]).strip.rows ≠
      Text.trimmed ([Text.ofString "// core", Text.ofString "option();\n"].flatMap Merge.codeRows) := by
    decide +kernel
  exact differ rows

end Site

end HelperKit

import HelperKit.Proofs.Artifact.Rendering
import HelperKit.Proofs.Upkeep.Edits

/-!
# Adding features extends the merged file

Before anything is stripped, the imports and the bodies of more payloads are those of the first
ones followed by those of the others.  Stripping takes blanks from the end only that more text
behind them would keep, so that what was merged before remains in front.
-/

namespace HelperKit

open Attempt

namespace Merge

theorem importBlock_append (runtime : Runtime) (old new : List Text) :
    importBlock runtime (old ++ new) = importBlock runtime old ++ importBlock runtime new := by
  rw [importBlock, List.flatMap_append, List.filter_append]
  rfl

theorem bodies_append (old new : List Text) : bodies (old ++ new) = bodies old ++ bodies new :=
  List.flatMap_append

end Merge

namespace Site

variable {site : Site} {project updated : Project} {requested : List Feature}
  {before after : Workspace}

/-- A merged file that was written can be rendered where writing it began. -/
theorem rendered_of_writeSingleFile {path : Path}
    (returned : site.writeSingleFile project before = (.ok path, after)) :
    ∃ payloads, project.mergedFeatures.mapM (Feature.given site.templates before) = .ok payloads := by
  rw [writeSingleFile_eq] at returned
  obtain ⟨_, warned, warning, continued⟩ := bind_eq_ok_iff.mp returned
  obtain ⟨content, rendered, rendering, -⟩ := bind_eq_ok_iff.mp continued
  obtain ⟨payloads, _, read, -⟩ := bind_eq_ok_iff.mp rendering
  have result := Feature.payloads_result site.templates project.mergedFeatures warned
  rw [read] at result
  have same : Feature.given site.templates warned = Feature.given site.templates before := by
    split at warning
    · cases warning
      exact Feature.given_congr ((Workspace.steady_cache before.cache).note before _ rfl)
        (before.reaches_note _).disk
    · cases warning
      rfl
  rw [same] at result
  exact ⟨payloads, result.symm⟩

theorem render_of_given {payloads : List Text}
    (given : project.mergedFeatures.mapM (Feature.given site.templates before) = .ok payloads) :
    (site.render project before).1 =
      .ok (Merge.assemble (Merge.importBlock project.runtime payloads)
        (Merge.bodies payloads).strip) := by
  rw [render_result, given, ← Merge.render_eq_assemble]
  rfl

theorem mergedFeatures_withFeatures (nonempty : project.features ++ project.additions requested ≠ []) :
    (project.withFeatures (project.features ++ project.additions requested) nonempty).mergedFeatures =
      project.mergedFeatures ++
        (project.additions requested).filter (Feature.isMerged project.runtime) := by
  have nodup := Edit.nodup_turn project.nodup_features (.add requested)
  rw [Project.mergedFeatures_eq, Project.mergedFeatures_eq, ← List.filter_append,
    Edit.withFeatures_eq nonempty nodup]
  rfl

/-- Adding features to a merged file extends it.  If there is something to add, both merged files
can be rendered, and imports and bodies of the new one are, before stripping, those of the old
one followed by those of the added features alone.  The imports of the old one come first in
the new one, and so does its body. -/
theorem addFeatures_extends (single : project.layout = .singleFile)
    (returned : site.addFeatures project requested before = (.ok updated, after)) :
    (project.additions requested = [] ∧ updated = project) ∨
      ∃ old new,
        project.mergedFeatures.mapM (Feature.given site.templates before) = .ok old ∧
        ((project.additions requested).filter (Feature.isMerged project.runtime)).mapM
          (Feature.given site.templates before) = .ok new ∧
        updated.features = project.features ++ project.additions requested ∧
        (site.render project before).1 =
          .ok (Merge.assemble (Merge.importBlock project.runtime old) (Merge.bodies old).strip) ∧
        (site.render updated before).1 =
          .ok (Merge.assemble (Merge.importBlock project.runtime (old ++ new))
            (Merge.bodies (old ++ new)).strip) ∧
        Merge.importBlock project.runtime (old ++ new) =
          Merge.importBlock project.runtime old ++ Merge.importBlock project.runtime new ∧
        Merge.bodies (old ++ new) = Merge.bodies old ++ Merge.bodies new ∧
        (Merge.bodies old).strip <+: (Merge.bodies (old ++ new)).strip := by
  rcases Edit.addFeatures_eq_ok returned with ⟨nothing, same, -⟩ | ⟨nonempty, rfl, renewing⟩
  · exact .inl ⟨nothing, same⟩
  · right
    obtain ⟨_, _, rebuilding, -⟩ := rebuild_of_renew renewing
    obtain ⟨start, cleared, writing⟩ := rebuild_eq_ok_iff.mp rebuilding
    have layout : (project.withFeatures (project.features ++ project.additions requested)
        nonempty).layout = .singleFile := single
    -- Nothing is cleared for a single file, so that the payloads are read where the call began.
    cases cleared with
    | split split _ => exact absurd (layout.symm.trans split) (by decide)
    | single _ =>
        unfold writeArtifact at writing
        rw [layout] at writing
        obtain ⟨_, _, written, -⟩ := bind_eq_ok_iff.mp writing
        obtain ⟨payloads, given⟩ := rendered_of_writeSingleFile written
        have all := given
        rw [mergedFeatures_withFeatures] at all
        obtain ⟨old, new, first, second, rfl⟩ := Feature.mapM_given_append all
        refine ⟨old, new, first, second, ?_, render_of_given first, render_of_given given,
          Merge.importBlock_append .., Merge.bodies_append .., ?_⟩
        · rw [Edit.withFeatures_eq nonempty
            (Edit.nodup_turn project.nodup_features (.add requested))]
          rfl
        · rw [Merge.bodies_append]
          exact Text.strip_prefix_strip_append _ _

/-- The feature that needs Deno is added to three others under Deno. -/
theorem addFeatures_extends_library :
    let before := Workspace.on Edit.libraryDisk .warning
    ∃ updated after old new,
      Edit.librarySite.addFeatures Edit.libraryProject [.parsers] before = (.ok updated, after) ∧
      (Edit.librarySite.render Edit.libraryProject before).1 =
        .ok (Merge.assemble (Merge.importBlock .deno old) (Merge.bodies old).strip) ∧
      (Edit.librarySite.render updated before).1 =
        .ok (Merge.assemble (Merge.importBlock .deno (old ++ new)) (Merge.bodies (old ++ new)).strip) ∧
      new = [Text.ofString "Parsers\n"] ∧
      (Merge.bodies old).strip <+: (Merge.bodies (old ++ new)).strip := by
  intro before
  have returned : (Edit.librarySite.addFeatures Edit.libraryProject [.parsers] before).1 =
      .ok (Edit.libraryProject.withFeatures [.core, .option, .result, .parsers] (by decide)) := by
    decide +kernel
  have added : ((Edit.libraryProject.additions [.parsers]).filter
      (Feature.isMerged .deno)).mapM (Feature.given Edit.librarySite.templates before) =
      .ok [Text.ofString "Parsers\n"] := by decide +kernel
  obtain ⟨after, returned⟩ := exists_eq_mk returned
  rcases addFeatures_extends rfl returned with ⟨nothing, -⟩ |
      ⟨old, new, -, given, -, first, second, -, -, front⟩
  · exact absurd nothing (by decide)
  · exact ⟨_, after, old, new, returned, first, second, Except.ok.inj (given.symm.trans added), front⟩

end Site

end HelperKit

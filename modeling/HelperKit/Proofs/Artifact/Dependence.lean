import HelperKit.Proofs.Artifact.Rendering

/-!
# What the merged file depends on

The runtime of a project matters in two places only: which features are merged, and which
imports are kept.  Either place asks no more than whether the runtime is Deno, and the first
one acts before any payload is read.  Nothing is read but the payloads of merged features.
-/

namespace HelperKit

namespace Feature

/-- Two workspaces give the same for some features. -/
def AgreeOn (relevant : List Feature) (folder : TemplateFolder) (before : Workspace)
    (elsewhere : TemplateFolder) (otherwise : Workspace) : Prop :=
  ∀ feature ∈ relevant, feature.given folder before = feature.given elsewhere otherwise

variable {runtime version : Runtime} {feature : Feature}

/-- Under other runtimes than Deno all features are merged that do not need it. -/
theorem isMerged_iff : feature.isMerged runtime = true ↔ runtime = .deno ∨ feature ≠ .parsers := by
  unfold isMerged
  rw [Bool.or_eq_true, decide_eq_true_eq, Bool.not_eq_true', ← Bool.not_eq_true, isDenoOnly_iff]

theorem isMerged_congr (alike : runtime = .deno ↔ version = .deno) :
    isMerged runtime = isMerged version := by
  funext feature
  rw [Bool.eq_iff_iff, isMerged_iff, isMerged_iff, alike]

end Feature

namespace Merge

variable {runtime version : Runtime}

theorem isKept_congr (alike : runtime = .deno ↔ version = .deno) : isKept runtime = isKept version := by
  funext line
  simp only [isKept, alike]

theorem render_congr (alike : runtime = .deno ↔ version = .deno) (payloads : List Text) :
    render runtime payloads = render version payloads := by
  rw [render, render, importBlock, importBlock, isKept_congr alike]

/-- Without Deno the imports are those that Deno has, but for the remote ones. -/
theorem importBlock_of_ne (other : runtime ≠ .deno) (payloads : List Text) :
    importBlock runtime payloads =
      (importBlock .deno payloads).filter fun line => !isRemote line := by
  rw [importBlock, importBlock, List.filter_filter]
  refine List.filter_congr fun line _ => ?_
  simp [isKept, other]

end Merge

namespace Site

variable {site other : Site} {project version : Project} {before otherwise : Workspace}

/-- Runtimes that are alike merge the same features, in the same way. -/
theorem render_eq_of_agree (same : project.features = version.features)
    (alike : project.runtime = .deno ↔ version.runtime = .deno)
    (agree : Feature.AgreeOn project.mergedFeatures site.templates before other.templates otherwise) :
    (site.render project before).1 = (other.render version otherwise).1 := by
  have sameMerged : version.mergedFeatures = project.mergedFeatures := by
    rw [Project.mergedFeatures_eq, Project.mergedFeatures_eq, same, Feature.isMerged_congr alike]
  rw [render_result, render_result, sameMerged, Feature.mapM_given_congr agree,
    funext (Merge.render_congr alike)]

/-- What the merged file of given features depends on.  If neither runtime is Deno, the results
are the same, failures included, as soon as the same is given for all features but the one that
needs Deno.  Under Deno they are if the same is given for all features.  Without the feature
that needs Deno, the merged file of another runtime has the body of the one under Deno, and its
imports but for the remote ones. -/
theorem render_depends_on_features (site other : Site) (project version : Project)
    (before otherwise : Workspace) (same : project.features = version.features) :
    (project.runtime ≠ .deno → version.runtime ≠ .deno →
      Feature.AgreeOn (project.features.filter (· ≠ .parsers)) site.templates before
        other.templates otherwise →
      (site.render project before).1 = (other.render version otherwise).1) ∧
    (project.runtime = .deno → version.runtime = .deno →
      Feature.AgreeOn project.features site.templates before other.templates otherwise →
      (site.render project before).1 = (other.render version otherwise).1) ∧
    (project.runtime = .deno → version.runtime ≠ .deno → .parsers ∉ project.features →
      Feature.AgreeOn project.features site.templates before other.templates otherwise →
      (∃ failure, (site.render project before).1 = .error failure ∧
        (other.render version otherwise).1 = .error failure) ∨
      ∃ payloads, project.features.mapM (Feature.given site.templates before) = .ok payloads ∧
        let block := Merge.importBlock .deno payloads
        let body := (Merge.bodies payloads).strip
        (site.render project before).1 = .ok (Merge.assemble block body) ∧
        (other.render version otherwise).1 =
          .ok (Merge.assemble (block.filter fun line => !Merge.isRemote line) body)) := by
  refine ⟨fun first second agree => ?_, fun first second agree => ?_,
    fun deno second none agree => ?_⟩
  · have alike : project.runtime = .deno ↔ version.runtime = .deno := by simp [first, second]
    refine render_eq_of_agree same alike fun feature member => agree feature ?_
    rw [Project.mergedFeatures_eq, List.mem_filter, Feature.isMerged_iff] at member
    simpa using ⟨member.1, member.2.resolve_left first⟩
  · have alike : project.runtime = .deno ↔ version.runtime = .deno := by simp [first, second]
    refine render_eq_of_agree same alike fun feature member => agree feature ?_
    rw [Project.mergedFeatures_eq] at member
    exact (List.mem_filter.mp member).1
  · have all : project.mergedFeatures = project.features := by
      rw [Project.mergedFeatures, if_pos deno]
    have rest : version.mergedFeatures = project.features := by
      rw [Project.mergedFeatures_eq, ← same, List.filter_eq_self]
      intro feature member
      exact Feature.isMerged_iff.mpr (.inr (ne_of_mem_of_not_mem member none))
    rw [render_result, render_result, all, rest, ← Feature.mapM_given_congr agree, deno]
    cases project.features.mapM (Feature.given site.templates before) with
    | error failure => exact .inl ⟨failure, rfl, rfl⟩
    | ok payloads =>
        refine .inr ⟨payloads, rfl, ?_, ?_⟩
        · exact congrArg Except.ok (Merge.render_eq_assemble .deno payloads)
        · refine congrArg Except.ok ((Merge.render_eq_assemble version.runtime payloads).trans ?_)
          rw [Merge.importBlock_of_ne second]

/-- Neither folder has a template for the feature that needs Deno, and the two have different
ones for a feature that is not selected.  Under Deno a remote import is kept. -/
theorem render_depends_on_features_pair :
    let site : Site := ⟨.standard, .directory (.ofText "tpl")⟩
    let before := Workspace.on (templateDisk "import http:a\nimport b\ncore()" "one") .warning
    let otherwise := Workspace.on (templateDisk "import http:a\nimport b\ncore()" "two") .warning
    let project : Project :=
      ⟨.nodeJs, ".", .custom [.core, .parsers] (by decide) (by decide), .singleFile⟩
    (site.render project before).1 =
        (site.render { project with runtime := .clientSide } otherwise).1 ∧
      ∃ block body, (site.render mergedPair before).1 = .ok (Merge.assemble block body) ∧
        (site.render { mergedPair with runtime := .nodeJs } before).1 =
          .ok (Merge.assemble (block.filter fun line => !Merge.isRemote line) body) := by
  intro site before otherwise project
  constructor
  · refine (render_depends_on_features site site project
      { project with runtime := .clientSide } before otherwise rfl).1 (by decide) (by decide) ?_
    unfold Feature.AgreeOn
    decide +kernel
  · have readable : (site.render mergedPair before).1.isOk = true := by decide +kernel
    rcases (render_depends_on_features site site mergedPair { mergedPair with runtime := .nodeJs }
        before before rfl).2.2 rfl (by decide) (by decide) (fun _ _ => rfl) with
      ⟨failure, failed, -⟩ | ⟨payloads, -, deno, other⟩
    · rw [failed] at readable
      cases readable
    · exact ⟨_, _, deno, other⟩

end Site

end HelperKit
